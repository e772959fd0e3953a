import FacetedSearch.Floating.Layout
import FacetedSearch.Floating.Rounding
import FacetedSearch.Numeral
import FacetedSearch.Text.Case

/-!
Contract: values that stand for settings before their types are known.

Owns: `Scalar`, a truth value, a number or a text, and its conversion to the type of a setting.
Does not own: the texts that values come from, and which setting a value is for.
-/

namespace FacetedSearch.Settings

/-- A value before its setting is known. -/
inductive Scalar where
  | boolean (value : Bool)
  | integer (value : Int64)
  | floating (value : Double)
  | text (value : String)
deriving DecidableEq, Repr

namespace Scalar

def asText : Scalar → String
  | .boolean value => if value then "true" else "false"
  | .integer value => toString value.toInt
  | .floating value => Floating.plainLayout.render value
  | .text value => value

/-- The value as a natural number of 64 bits. Truth values and their words count as one and zero,
and fractions are rounded. -/
def asNat? : Scalar → Option Nat
  | .boolean value => some (if value then 1 else 0)
  | .integer value => if 0 ≤ value.toInt then some value.toInt.toNat else none
  | .floating value => some (value.toNatAtMost Numeral.maxWord)
  | .text value =>
      let lower := String.ofList (Text.toLower value.toList)
      if lower = "true" ∨ lower = "on" ∨ lower = "yes" then some 1
      else if lower = "false" ∨ lower = "off" ∨ lower = "no" then some 0
      else Numeral.readNat? Numeral.maxWord value.toList

/-- The value as an unsigned integer of 64 bits. -/
def asWord? (scalar : Scalar) : Option UInt64 :=
  scalar.asNat?.map Nat.toUInt64

/-- The value as an unsigned integer of 32 bits. -/
def asHalfWord? (scalar : Scalar) : Option UInt32 :=
  (scalar.asNat?.filter fun value => value ≤ Numeral.maxHalfWord).map Nat.toUInt32

/-- The value as a truth value. Numbers are true unless they are zero. -/
def asBoolean? : Scalar → Option Bool
  | .boolean value => some value
  | .integer value => some (value != 0)
  | .floating value => some (!value.isZero)
  | .text value =>
      let lower := String.ofList (Text.toLower value.toList)
      if lower = "1" ∨ lower = "true" ∨ lower = "on" ∨ lower = "yes" then some true
      else if lower = "0" ∨ lower = "false" ∨ lower = "off" ∨ lower = "no" then some false
      else none

end Scalar

end FacetedSearch.Settings
