import FacetedSearch.Json.Number
import FacetedSearch.Sorting

/-!
Contract: JSON values.

Owns:
- `Value`, whose objects list their members;
- `writeMember` and `Value.ofMembers`, which put members in ascending order of their keys and let
  the last of several members with one key count;
- the reading of members and of scalars.

Does not own: texts.
-/

namespace FacetedSearch.Json

/-- A JSON value. -/
inductive Value where
  | null
  | boolean (value : Bool)
  | number (value : Number)
  | string (value : String)
  | array (elements : List Value)
  | object (members : List (String × Value))
deriving Inhabited

/-- Members in ascending order with one member written. -/
def writeMember {α : Type} (key : String) (value : α) : List (String × α) → List (String × α)
  | [] => [(key, value)]
  | member :: rest =>
      if key < member.1 then (key, value) :: member :: rest
      else if key = member.1 then (key, value) :: rest
      else member :: writeMember key value rest

/-- Members in ascending order; of several members with one key the last counts. -/
def sortMembers {α : Type} (members : List (String × α)) : List (String × α) :=
  members.foldl (fun written member => writeMember member.1 member.2 written) []

namespace Value

def ofMembers (members : List (String × Value)) : Value :=
  .object (sortMembers members)

def single (key : String) (value : Value) : Value :=
  .object [(key, value)]

def ofStrings (texts : List String) : Value :=
  .array (texts.map .string)

def ofNat (value : Nat) : Value :=
  .number (.integer value)

def ofWord (value : UInt64) : Value :=
  ofNat value.toNat

/-- A floating-point number. Only finite ones can be written. -/
def ofDouble (value : Double) : Value :=
  if value.isFinite then .number (.floating value) else .null

def memberOf? (key : String) : List (String × Value) → Option Value
  | [] => none
  | member :: rest => if member.1 = key then some member.2 else memberOf? key rest

/-- The member with the given key, if the value is an object with one. -/
def member? (value : Value) (key : String) : Option Value :=
  match value with
  | .object members => memberOf? key members
  | _ => none

def elements? : Value → Option (List Value)
  | .array elements => some elements
  | _ => none

def members? : Value → Option (List (String × Value))
  | .object members => some members
  | _ => none

def isObject (value : Value) : Bool :=
  value.members?.isSome

def string? : Value → Option String
  | .string text => some text
  | _ => none

def number? : Value → Option Number
  | .number value => some value
  | _ => none

/-- The value as an unsigned integer of 64 bits. -/
def word? (value : Value) : Option UInt64 :=
  value.number?.bind Number.asWord?

end Value

end FacetedSearch.Json
