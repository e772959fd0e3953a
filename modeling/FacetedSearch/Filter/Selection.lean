import FacetedSearch.Calendar.PartialDate
import FacetedSearch.Filter.RangeSyntax
import FacetedSearch.Filter.TypedValue
import FacetedSearch.Floating.Literal
import FacetedSearch.SearchError
import FacetedSearch.Settings.Basic
import FacetedSearch.Text.Splitting

/-!
Contract: raw filter values read as selections.

Owns:
- `readScalar`, the reading of a single value of each type;
- `Condition` and `Selection`, what one raw value selects or excludes;
- `FilterSyntax`, how ranges and exclusions are written, and the reading of raw values with it.

Dates may leave out the day or the month: alone they select their whole period, as the lower
bound of a range its first day, as the upper bound its last day.

Does not own: the shapes of spatial filters and the fields that selections apply to.
-/

namespace FacetedSearch

open Calendar Text

/-- What a single raw value asks of a document. -/
inductive Condition where
  | equals (value : TypedValue)
  /-- At least the lower and at most the upper bound, as far as there are bounds. -/
  | between (lower upper : Option TypedValue)
  /-- Within a shape, in its normal form. -/
  | inside (shape : String)
deriving DecidableEq

/-- A condition that documents have to meet, or must not meet. -/
structure Selection where
  negated : Bool
  condition : Condition
deriving DecidableEq

/-- The refusal of a raw value. -/
def malformedValue {α : Type} (raw expected : String) : Except SearchError α :=
  .error (.value (.malformed raw expected))

/-- A value that was read, or the refusal of its text. -/
def orMalformed {α : Type} (raw expected : String) (value : Option α) : Except SearchError α :=
  match value with
  | some value => .ok value
  | none => malformedValue raw expected

def readPeriod (raw : String) : Except SearchError Period :=
  orMalformed raw "date" (readPeriod? raw)

/-- Reads `true` and `false` in any case. -/
def readBoolean? (text : List Char) : Option Bool :=
  if equalIgnoringAsciiCase text ['t', 'r', 'u', 'e'] then some true
  else if equalIgnoringAsciiCase text ['f', 'a', 'l', 's', 'e'] then some false
  else none

def readFinite? {format : Floating.Format} (text : List Char) : Option (Floating format) :=
  (Floating.readFloating? text).filter Floating.isFinite

/-- Reads a single value. Blanks around it count in texts only. -/
def readScalar (type : ValueType) (raw : String) : Except SearchError TypedValue :=
  let trimmed := trimBlanks raw.toList
  match type with
  | .text => .ok (.text raw)
  | .enumeration vocabulary =>
      orMalformed raw "enumeration value" ((vocabulary.lookup? raw).map .keyword)
  | .boolean => orMalformed raw "boolean" ((readBoolean? trimmed).map .boolean)
  | .integer =>
      orMalformed raw "integer"
        ((Numeral.readInt? Numeral.minInt32 Numeral.maxInt32 trimmed).map fun value =>
          .integer (Int32.ofInt value))
  | .long =>
      orMalformed raw "long"
        ((Numeral.readInt? Numeral.minInt64 Numeral.maxInt64 trimmed).map fun value =>
          .long (Int64.ofInt value))
  | .double => orMalformed raw "double" ((readFinite? trimmed).map .double)
  | .float => orMalformed raw "float" ((readFinite? trimmed).map .float)
  | .date => (readPeriod raw).map fun period => .date period.first
  | .uuid => orMalformed raw "UUID" ((Uuid.read? trimmed).map .uuid)

/-- How ranges and exclusions are written. -/
structure FilterSyntax where
  range : RangeSyntax
  negationMark : String
deriving DecidableEq, Repr

def Settings.filterSyntax (settings : Settings) : FilterSyntax where
  range := ⟨settings.rangeWildcard, settings.rangeSeparator⟩
  negationMark := settings.negationMark

namespace FilterSyntax

/-- Reads a bound of a range; the wildcard is no bound. Of a partial date `day` takes the first or
the last day. -/
def readBound (filterSyntax : FilterSyntax) (type : ValueType) (day : Period → Date)
    (token : String) : Except SearchError (Option TypedValue) :=
  if token = filterSyntax.range.wildcard then .ok none
  else
    match type with
    | .date => (readPeriod token).map fun period => some (.date (day period))
    | _ => (readScalar type token).map some

/-- Reads a range that was cut into its bounds. -/
def readRange (filterSyntax : FilterSyntax) (type : ValueType) (raw lower upper : String) :
    Except SearchError Condition :=
  if type.supportsRanges then
    match filterSyntax.readBound type Period.first lower with
    | .error error => .error error
    | .ok lower => (filterSyntax.readBound type Period.last upper).map (.between lower)
  else .error (.value (.rangeUnsupported raw type))

/-- What a period asks of a date. -/
def periodCondition (period : Period) : Condition :=
  if period.isSingleDay then .equals (.date period.first)
  else .between (some (.date period.first)) (some (.date period.last))

def readCondition (filterSyntax : FilterSyntax) (type : ValueType) (raw : String) :
    Except SearchError Condition :=
  match filterSyntax.range.split? raw with
  | some (lower, upper) => filterSyntax.readRange type raw lower upper
  | none =>
      match type with
      | .date => (readPeriod raw).map periodCondition
      | _ => (readScalar type raw).map .equals

/-- What follows the negation mark of a raw value, if the value begins with it. -/
def negated? (filterSyntax : FilterSyntax) (raw : String) : Option String :=
  (stripStart? filterSyntax.negationMark.toList raw.toList).map String.ofList

def readSelection (filterSyntax : FilterSyntax) (type : ValueType) (raw : String) :
    Except SearchError Selection :=
  match filterSyntax.negated? raw with
  | some rest =>
      if trim rest = "" then .error (.value (.nothingToNegate raw))
      else (filterSyntax.readCondition type rest).map fun condition => ⟨true, condition⟩
  | none => (filterSyntax.readCondition type raw).map fun condition => ⟨false, condition⟩

end FilterSyntax

end FacetedSearch
