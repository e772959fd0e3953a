import FacetedSearch.Json.Document
import FacetedSearch.Json.Value

/-!
Contract: reading documents as values of other types.

Owns:
- `Decoder`, which reads a document within an allowance of nested containers, and the decoders of
  scalars, lists, maps and free values;
- records, written as objects or as lists of their fields in order.

Parts of a document that no decoder asks for are not checked: their numbers may be out of range,
their strings may lack a text and their nesting is free.

Does not own: the fields of any record.
-/

namespace FacetedSearch.Json

/-- Reads a document within an allowance of containers nested in each other. -/
abbrev Decoder (α : Type) :=
  Nat → Document → Option α

/-- The allowance of a whole text. -/
def nestingAllowance : Nat := 127

def decode? {α : Type} (decoder : Decoder α) (text : String) : Option α :=
  (Document.read? text).bind (decoder nestingAllowance)

namespace Decoder

variable {α : Type}

def each? (decoder : Document → Option α) : List Document → Option (List α)
  | [] => some []
  | document :: rest =>
      match decoder document, each? decoder rest with
      | some value, some values => some (value :: values)
      | _, _ => none

/-- Reads every member of a list. Each key needs a text. -/
def eachMember? (decoder : Document → Option α) :
    List (Option String × Document) → Option (List (String × α))
  | [] => some []
  | (key, document) :: rest =>
      match key, decoder document, eachMember? decoder rest with
      | some key, some value, some members => some ((key, value) :: members)
      | _, _, _ => none

def text : Decoder String
  | _, .string text => text
  | _, _ => none

def boolean : Decoder Bool
  | _, .boolean value => some value
  | _, _ => none

def number : Decoder Number
  | _, .number literal => literal.number?
  | _, _ => none

def word : Decoder UInt64 :=
  fun allowance document => (number allowance document).bind Number.asWord?

def halfWord : Decoder UInt32 :=
  fun allowance document =>
    (word allowance document).bind fun value =>
      if value.toNat ≤ Numeral.maxHalfWord then some value.toNat.toUInt32 else none

/-- A floating-point number; integers are rounded. -/
def double : Decoder Double :=
  fun allowance document => (number allowance document).map Number.toDouble

def nullable (decoder : Decoder α) : Decoder (Option α)
  | _, .null => some none
  | allowance, document => (decoder allowance document).map some

def list (decoder : Decoder α) : Decoder (List α)
  | allowance + 1, .array elements => each? (decoder allowance) elements
  | _, _ => none

/-- An object with free keys, as members in ascending order; of several members with one key the
last counts. -/
def map (decoder : Decoder α) : Decoder (List (String × α))
  | allowance + 1, .object members =>
      (eachMember? (decoder allowance) members).map sortMembers
  | _, _ => none

mutual

def value : Nat → Document → Option Value
  | _, .null => some .null
  | _, .boolean flag => some (.boolean flag)
  | _, .number literal => literal.number?.map .number
  | _, .string text => text.map .string
  | 0, .array _ => none
  | 0, .object _ => none
  | allowance + 1, .array elements => (values allowance elements).map .array
  | allowance + 1, .object members => (memberValues allowance members).map Value.ofMembers

def values : Nat → List Document → Option (List Value)
  | _, [] => some []
  | allowance, document :: rest =>
      match value allowance document, values allowance rest with
      | some first, some others => some (first :: others)
      | _, _ => none

/-- The values of members. Each key needs a text. -/
def memberValues : Nat → List (Option String × Document) → Option (List (String × Value))
  | _, [] => some []
  | allowance, (key, document) :: rest =>
      match key, value allowance document, memberValues allowance rest with
      | some key, some first, some others => some ((key, first) :: others)
      | _, _, _ => none

end

end Decoder

/-- Whether a field of a record may be absent. -/
inductive Absence where
  | refused
  /-- Only where fields have their names. -/
  | inObjects
  | allowed
deriving DecidableEq, Repr

/-- The fields of a record in the order of declaration. -/
abbrev FieldTable := List (String × Absence)

/-- The fields that a record was written with, and the allowance inside them. -/
structure Record where
  fields : List (String × Document)
  allowance : Nat

namespace FieldTable

/-- The members whose keys are fields. Each key needs a text, and no field is repeated. -/
def pick? (table : FieldTable) :
    List (Option String × Document) → Option (List (String × Document))
  | [] => some []
  | (none, _) :: _ => none
  | (some key, document) :: rest =>
      match pick? table rest with
      | none => none
      | some fields =>
          if table.any fun field => field.1 == key then
            if fields.any fun field => field.1 == key then none
            else some ((key, document) :: fields)
          else some fields

/-- Whether the fields without a document may be absent. -/
def complete (table : FieldTable) (fields : List (String × Document))
    (mayMiss : Absence → Bool) : Bool :=
  table.all fun field => mayMiss field.2 || fields.any fun present => present.1 == field.1

def readObject? (table : FieldTable) (members : List (Option String × Document)) :
    Option (List (String × Document)) :=
  (table.pick? members).filter fun fields =>
    table.complete fields fun absence => absence != .refused

/-- Reads a record written as an object or as a list. -/
def read? (table : FieldTable) : Decoder Record
  | allowance + 1, .object members =>
      (table.readObject? members).map fun fields => ⟨fields, allowance⟩
  | allowance + 1, .array elements =>
      let fields := (table.map Prod.fst).zip elements
      if elements.length ≤ table.length &&
          table.complete fields (fun absence => absence == .allowed) then
        some ⟨fields, allowance⟩
      else none
  | _, _ => none

end FieldTable

namespace Record

variable {α : Type}

def field? (record : Record) (name : String) : Option Document :=
  (record.fields.find? fun field => field.1 == name).map Prod.snd

def required? (record : Record) (name : String) (decoder : Decoder α) : Option α :=
  (record.field? name).bind (decoder record.allowance)

def defaulted? (record : Record) (name : String) (default : α) (decoder : Decoder α) : Option α :=
  match record.field? name with
  | none => some default
  | some document => decoder record.allowance document

end Record

end FacetedSearch.Json
