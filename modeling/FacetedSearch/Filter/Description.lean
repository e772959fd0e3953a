import FacetedSearch.Filter.Selection
import FacetedSearch.Json.Access

/-!
Contract: filter values and selections as JSON values, for those who want to see what was read.

Owns: the JSON values of typed values with their kinds, of conditions and of selections.
Does not own: the reading of raw values.
-/

namespace FacetedSearch

open Json

namespace TypedValue

def kindName : TypedValue → String
  | .text _ => "text"
  | .keyword _ => "keyword"
  | .boolean _ => "boolean"
  | .integer _ => "integer"
  | .long _ => "long"
  | .double _ => "double"
  | .float _ => "float"
  | .date _ => "date"
  | .uuid _ => "uuid"

def description (value : TypedValue) : Value :=
  .object
    [("kind", .string value.kindName), ("json", value.toJson), ("text", .string value.asText)]

end TypedValue

def Condition.description : Condition → Value
  | .equals value => .single "scalar" value.description
  | .between lower upper =>
      .single "range"
        (.object
          [("lower", orNull TypedValue.description lower),
           ("upper", orNull TypedValue.description upper)])
  | .inside shape => .single "shape" (.string shape)

def Selection.description (selection : Selection) : Value :=
  .object
    [("negated", .boolean selection.negated), ("value", selection.condition.description)]

end FacetedSearch
