import FacetedSearch.Calendar.PartialDate
import FacetedSearch.Floating.Literal
import FacetedSearch.Json.Text
import FacetedSearch.Response.Highlight
import FacetedSearch.Response.Raw
import FacetedSearch.Uuid

/-!
Contract: typed access to the fields of hits.

Owns: fields by name or by a path with points, their texts, and their readings as numbers, truth
values, identifiers, days and lists. What cannot be read is absent.
Does not own: how applications map hits.
-/

namespace FacetedSearch.Hit

open Json

def valueAlong (value : Value) : List String → Option Value
  | [] => some value
  | name :: rest => (value.member? name).bind fun inner => valueAlong inner rest

/-- The value of a field, or at a path with points into nested objects. -/
def value? (hit : Hit) (path : String) : Option Value :=
  match hit.source.member? path with
  | some value => some value
  | none =>
      match Text.pieces '.' path.toList with
      | [_] => none
      | names => valueAlong hit.source (names.map String.ofList)

/-- The text of a string, a number or a truth value, unless it is empty. -/
def scalarText? (value : Value) : Option String :=
  let text :=
    match value with
    | .string text => some text
    | .number number => some number.text
    | .boolean flag => some (if flag then "true" else "false")
    | _ => none
  text.filter fun text => text != ""

def text? (hit : Hit) (path : String) : Option String :=
  (hit.value? path).bind scalarText?

/-- A field as a signed integer of 64 bits. -/
def integer? (hit : Hit) (path : String) : Option Int64 :=
  (hit.text? path).bind fun text =>
    (Numeral.readInt? Numeral.minInt64 Numeral.maxInt64 text.toList).map Int64.ofInt

def double? (hit : Hit) (path : String) : Option Double :=
  (hit.text? path).bind fun text => Floating.readFloating? text.toList

def boolean? (hit : Hit) (path : String) : Option Bool :=
  (hit.text? path).bind fun text =>
    if text = "true" then some true else if text = "false" then some false else none

def uuid? (hit : Hit) (path : String) : Option Uuid :=
  (hit.text? path).bind fun text => Uuid.read? text.toList

/-- The first day of a date in a field. -/
def date? (hit : Hit) (path : String) : Option Calendar.Date :=
  (hit.text? path).bind fun text => (Calendar.readPeriod? text).map Calendar.Period.first

/-- The texts of the elements of a field, unless there are none. -/
def list? (hit : Hit) (path : String) : Option (List String) :=
  ((hit.value? path).bind Value.elements?).bind fun elements =>
    let texts := elements.filterMap scalarText?
    if texts.isEmpty then none else some texts

def snippets? (hit : Hit) (path : String) : Option (List String) :=
  (hit.highlight.find? fun entry => entry.1 == path).map Prod.snd

/-- The first snippet of a field, or its text. -/
def highlightOrText? (hit : Hit) (path : String) : Option String :=
  ((hit.snippets? path).bind firstSnippet?).or (hit.text? path)

/-- The texts of the elements of a field, with snippets in the places of what they mark. -/
def highlightedList? (hit : Hit) (tags : HighlightSettings) (path : String) :
    Option (List String) :=
  (hit.list? path).map fun texts =>
    match hit.snippets? path with
    | some snippets => highlightList tags snippets texts
    | none => texts

end FacetedSearch.Hit
