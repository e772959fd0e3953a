import FacetedSearch.Floating.Basic

/-!
Contract: exact values rounded to the nearest number of a format.

Owns:
- `roundedQuotient`, a quotient rounded to the nearest integer, ties to even;
- `Format.nearest`, the code nearest to a ratio of least units;
- numbers from ratios and from decimals;
- products, quotients and conversions, each the exact value rounded once;
- the integer nearest to a number.

Does not own: the texts of numbers.
-/

namespace FacetedSearch.Floating

/-- The integer nearest to a quotient; of two equally near ones the even one. -/
def roundedQuotient (numerator denominator : Nat) : Nat :=
  let whole := numerator / denominator
  let rest := 2 * (numerator % denominator)
  if rest < denominator then whole
  else if rest > denominator then whole + 1
  else if whole % 2 = 0 then whole
  else whole + 1

/-- The code nearest to a ratio of least units. Above the subnormal numbers one step of the code
is worth two to the power of `shift`. -/
def Format.nearest (format : Format) (numerator denominator : Nat) : Nat :=
  let shift := (numerator / denominator).log2 - format.fractionBits
  shift * Nat.pow 2 format.fractionBits +
    roundedQuotient numerator (denominator * Nat.pow 2 shift)

variable {format : Format}

/-- The number nearest to a ratio of least units. -/
def ofUnits (negative : Bool) (numerator denominator : Nat) : Floating format :=
  ofCode negative (format.nearest numerator denominator)

/-- The number nearest to an integer. -/
def ofNat (negative : Bool) (value : Nat) : Floating format :=
  ofUnits negative (value * Nat.pow 2 format.bottom) 1

/-- The number nearest to `digits * 10 ^ exponent`. Powers of ten beyond the format are not
computed: from above they overflow, from below they round to zero. -/
def ofDecimal (negative : Bool) (digits : Nat) (exponent : Int) : Floating format :=
  if digits = 0 then ofCode negative 0
  else if exponent ≥ Nat.pow 2 (format.exponentBits - 1) then .infinite negative
  else if digits.log2 + 1 + 3 * exponent ≤ -(format.bottom + 1 : Int) then ofCode negative 0
  else
    ofUnits negative (digits * Nat.pow 10 exponent.toNat * Nat.pow 2 format.bottom)
      (Nat.pow 10 (-exponent).toNat)

/-- The number of another format nearest to this one. -/
def convert {target : Format} : Floating format → Floating target
  | .finite negative code =>
      ofUnits negative (format.units code * Nat.pow 2 target.bottom) (Nat.pow 2 format.bottom)
  | .infinite negative => .infinite negative
  | .notANumber => .notANumber

/-- The product of two finite numbers, rounded once; not-a-number otherwise. -/
def product : Floating format → Floating format → Floating format
  | .finite negative code, .finite negative' code' =>
      ofUnits (negative != negative') (format.units code * format.units code')
        (Nat.pow 2 format.bottom)
  | _, _ => .notANumber

/-- The quotient of a finite number by a finite non-zero one, rounded once; not-a-number
otherwise. -/
def quotient : Floating format → Floating format → Floating format
  | .finite negative code, .finite negative' code' =>
      if code'.val = 0 then .notANumber
      else
        ofUnits (negative != negative') (format.units code * Nat.pow 2 format.bottom)
          (format.units code')
  | _, _ => .notANumber

/-- The natural number nearest to a number, halves upwards; negative numbers and not-a-number
give zero, and nothing exceeds `most`. -/
def toNatAtMost (most : Nat) : Floating format → Nat
  | .finite false code =>
      min most
        ((2 * format.units code + Nat.pow 2 format.bottom) / Nat.pow 2 (format.bottom + 1))
  | .infinite false => most
  | _ => 0

end FacetedSearch.Floating
