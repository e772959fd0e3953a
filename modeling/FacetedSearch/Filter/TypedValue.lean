import FacetedSearch.Calendar.Date
import FacetedSearch.Floating.Layout
import FacetedSearch.Json.Value
import FacetedSearch.Uuid

/-!
Contract: filter values after their type is known.

Owns:
- `TypedValue` with its text and its JSON value;
- `TypedValue.equal`, equality as engines see it: of numbers by value, of all else by spelling,
  and never between values of different types.

Does not own: the reading of raw values.
-/

namespace FacetedSearch

open Calendar

/-- A value of a filter. -/
inductive TypedValue where
  | text (value : String)
  /-- A name of a vocabulary. -/
  | keyword (name : String)
  | boolean (value : Bool)
  | integer (value : Int32)
  | long (value : Int64)
  | double (value : Double)
  | float (value : Single)
  | date (value : Date)
  | uuid (value : Uuid)
deriving DecidableEq

namespace TypedValue

def equal : TypedValue → TypedValue → Bool
  | .double left, .double right => left.equal right
  | .float left, .float right => left.equal right
  | left, right => left == right

theorem equal_comm (left right : TypedValue) : left.equal right = right.equal left := by
  cases left <;> cases right <;> simp only [equal, Floating.equal_comm, Bool.beq_comm]

theorem equal_trans {left middle right : TypedValue} (first : left.equal middle = true)
    (second : middle.equal right = true) : left.equal right = true := by
  cases left <;> cases middle <;> cases right <;> simp_all [equal]
  all_goals exact Floating.equal_trans first second

def asText : TypedValue → String
  | .text value => value
  | .keyword name => name
  | .boolean value => if value then "true" else "false"
  | .integer value => toString value.toInt
  | .long value => toString value.toInt
  | .double value => Floating.plainLayout.render value
  | .float value => Floating.plainLayout.render value
  | .date value => value.text
  | .uuid value => value.text

def toJson : TypedValue → Json.Value
  | .text value => .string value
  | .keyword name => .string name
  | .boolean value => .boolean value
  | .integer value => .number (.integer value.toInt)
  | .long value => .number (.integer value.toInt)
  | .double value => .ofDouble value
  | .float value => .ofDouble value.convert
  | .date value => .string value.text
  | .uuid value => .string value.text

end TypedValue

end FacetedSearch
