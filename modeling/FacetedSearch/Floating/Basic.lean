/-!
Contract: binary floating-point numbers as exact data.

Owns:
- `Format`, the widths that fix a format, with the 64-bit and the 32-bit one;
- `Floating`, a sign and a code for finite numbers, infinities, and not-a-number;
- `Format.units`, the exact value of a code as a multiple of the format's least unit;
- comparison, under which both zeros are equal and not-a-number differs from itself.

Codes count the non-negative numbers of a format in ascending order, so neighbours in value
have neighbouring codes.

Does not own: rounding, reading and writing.
-/

namespace FacetedSearch

/-- The widths that fix a binary floating-point format. -/
structure Floating.Format where
  fractionBits : Nat
  exponentBits : Nat
deriving DecidableEq, Repr

namespace Floating.Format

def double : Format :=
  ⟨52, 11⟩

def single : Format :=
  ⟨23, 8⟩

/-- The least unit of the format is two to the power of minus this number. -/
def bottom (format : Format) : Nat :=
  Nat.pow 2 (format.exponentBits - 1) + format.fractionBits - 2

/-- Codes below this number are finite. -/
def limit (format : Format) : Nat :=
  (Nat.pow 2 format.exponentBits - 1) * Nat.pow 2 format.fractionBits

/-- The value of a code as a multiple of the least unit. -/
def units (format : Format) (code : Nat) : Nat :=
  let shift := code / Nat.pow 2 format.fractionBits - 1
  (code - shift * Nat.pow 2 format.fractionBits) * Nat.pow 2 shift

end Floating.Format

open Floating in
/-- A number of a binary floating-point format. -/
inductive Floating (format : Format) where
  | finite (negative : Bool) (code : Fin format.limit)
  | infinite (negative : Bool)
  | notANumber
deriving DecidableEq, Repr

abbrev Double := Floating Floating.Format.double

abbrev Single := Floating Floating.Format.single

namespace Floating

variable {format : Format}

/-- The number with a sign and a code; codes beyond the finite ones are infinite. -/
def ofCode (negative : Bool) (code : Nat) : Floating format :=
  if below : code < format.limit then .finite negative ⟨code, below⟩ else .infinite negative

instance : Inhabited (Floating format) :=
  ⟨.notANumber⟩

def isFinite : Floating format → Bool
  | .finite _ _ => true
  | _ => false

/-- Whether the number is one of the two zeros. -/
def isZero : Floating format → Bool
  | .finite _ code => code.val == 0
  | _ => false

/-- Numeric equality: the zeros are equal, not-a-number differs from itself. -/
def equal : Floating format → Floating format → Bool
  | .finite negative code, .finite negative' code' =>
      code.val == code'.val && (negative == negative' || code.val == 0)
  | .infinite negative, .infinite negative' => negative == negative'
  | _, _ => false

theorem equal_comm (left right : Floating format) : left.equal right = right.equal left := by
  cases left <;> cases right <;> simp only [equal]
  all_goals grind

theorem equal_trans {left middle right : Floating format} (first : left.equal middle = true)
    (second : middle.equal right = true) : left.equal right = true := by
  cases left <;> cases middle <;> cases right <;> simp_all [equal]
  grind

end Floating

end FacetedSearch
