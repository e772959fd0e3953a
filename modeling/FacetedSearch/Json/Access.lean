import FacetedSearch.Json.Value

/-!
Contract: reading values whose members may be absent.

Owns: scalars, lists and members of a value as other types. A member that is null counts as
absent.
Does not own: records with a fixed list of fields.
-/

namespace FacetedSearch.Json

/-- What is written for an optional value: itself or null. -/
def orNull {α : Type} (write : α → Value) : Option α → Value
  | some value => write value
  | none => .null

namespace Value

variable {α : Type}

def boolean? : Value → Option Bool
  | .boolean value => some value
  | _ => none

/-- The value as an unsigned integer of 32 bits. -/
def halfWord? (value : Value) : Option UInt32 :=
  value.word?.bind fun word =>
    if word.toNat ≤ Numeral.maxHalfWord then some word.toNat.toUInt32 else none

def double? (value : Value) : Option Double :=
  value.number?.map Number.toDouble

/-- The elements of an array, each read. -/
def each? (read : Value → Option α) (value : Value) : Option (List α) :=
  value.elements?.bind fun elements => elements.mapM read

def strings? : Value → Option (List String) :=
  each? string?

/-- The member with the given key, unless it is null. -/
def present? (value : Value) (name : String) : Option Value :=
  match value.member? name with
  | some .null => none
  | found => found

def required? (value : Value) (name : String) (read : Value → Option α) : Option α :=
  (value.present? name).bind read

def textAt? (value : Value) (name : String) : Option String :=
  value.required? name string?

def optional? (value : Value) (name : String) (read : Value → Option α) : Option (Option α) :=
  match value.present? name with
  | none => some none
  | some found => (read found).map some

/-- Reads a member, or takes the default if it is absent. -/
def defaulted? (value : Value) (name : String) (default : α) (read : Value → Option α) :
    Option α :=
  (value.optional? name read).map fun found => found.getD default

/-- Reads a truth value, false if it is absent. -/
def flag? (value : Value) (name : String) : Option Bool :=
  value.defaulted? name false boolean?

/-- Reads a list, empty if it is absent. -/
def list? (value : Value) (name : String) (read : Value → Option α) : Option (List α) :=
  value.defaulted? name [] (each? read)

/-- Reads the members of an object, none if it is absent. -/
def table? (value : Value) (name : String) : Option (List (String × Value)) :=
  value.defaulted? name [] members?

end Value

end FacetedSearch.Json
