import FacetedSearch.Floating.Basic

/-!
Contract: the decimal with the fewest digits that identifies a number of a format.

Owns:
- `Decimal`, an integer times a power of ten;
- `Format.identifies`, whether a decimal lies among the reals that round to a code;
- `Format.shortest`, the selection: the coarsest power of ten with such a decimal wins, of two
  decimals on it the nearer one, of two equally near ones the tie rule decides.

Does not own: the layout of the digits as a text.
-/

namespace FacetedSearch.Floating

/-- The value `digits * 10 ^ exponent`. -/
structure Decimal where
  digits : Nat
  exponent : Int
deriving DecidableEq, Repr

/-- Which of two equally near decimals is taken. -/
inductive Tie where
  | toEven
  | upward
deriving DecidableEq, Repr

/-- The decimal as a numerator over a denominator, counted in half units of the format. -/
def Decimal.halfUnits (format : Format) (decimal : Decimal) : Nat × Nat :=
  (2 * decimal.digits * Nat.pow 10 decimal.exponent.toNat * Nat.pow 2 format.bottom,
    Nat.pow 10 (-decimal.exponent).toNat)

/-- Whether the decimal lies among the reals that round to the code: between the midpoints to
the two neighbours, the midpoints included exactly for even codes. -/
def Format.identifies (format : Format) (code : Nat) (decimal : Decimal) : Bool :=
  let value := decimal.halfUnits format
  let low := (format.units (code - 1) + format.units code) * value.2
  let high := (format.units code + format.units (code + 1)) * value.2
  if code % 2 = 0 then low ≤ value.1 && value.1 ≤ high
  else low < value.1 && value.1 < high

/-- The decimal on the grid of one power of ten that identifies the code, if there is one. Only
the two neighbours of the exact value have to be tried. -/
def Format.onGrid? (format : Format) (tie : Tie) (code : Nat) (exponent : Int) : Option Decimal :=
  let numerator := format.units code * Nat.pow 10 (-exponent).toNat
  let denominator := Nat.pow 2 format.bottom * Nat.pow 10 exponent.toNat
  let whole := numerator / denominator
  let below : Decimal := ⟨whole, exponent⟩
  let above : Decimal := ⟨whole + 1, exponent⟩
  match format.identifies code below, format.identifies code above with
  | false, false => none
  | true, false => some below
  | false, true => some above
  | true, true =>
      let middle := (2 * whole + 1) * denominator
      if 2 * numerator < middle then some below
      else if 2 * numerator > middle then some above
      else
        match tie with
        | .upward => some above
        | .toEven => if whole % 2 = 0 then some below else some above

def Format.exact (format : Format) (code : Nat) : Decimal :=
  ⟨format.units code * Nat.pow 5 format.bottom, -format.bottom⟩

/-- An exponent with the value of the code below ten to its power, at most two above the least
such exponent. -/
def Format.decimalScale (format : Format) (code : Nat) : Int :=
  let binary : Int := (format.units code).log2 - format.bottom
  binary * 30103 / 100000 + 2

/-- Exponents to try, from the coarsest grid to one with more digits than any number needs. -/
def Format.gridExponents (format : Format) (code : Nat) : List Int :=
  (List.range (format.fractionBits / 3 + 5)).map fun (step : Nat) =>
    format.decimalScale code - (step : Int)

/-- The decimal without zeros at the end of its digits, at most `limit` of them dropped. -/
def Decimal.dropZeros : (limit : Nat) → Decimal → Decimal
  | 0, decimal => decimal
  | limit + 1, decimal =>
      if decimal.digits % 10 = 0 && decimal.digits != 0 then
        dropZeros limit ⟨decimal.digits / 10, decimal.exponent + 1⟩
      else decimal

/-- The decimal with the fewest digits that identifies the code. -/
def Format.shortest (format : Format) (tie : Tie) (code : Nat) : Decimal :=
  let found :=
    ((format.gridExponents code).findSome? fun exponent => format.onGrid? tie code exponent)
  (found.getD (format.exact code)).dropZeros (format.fractionBits + 1)

end FacetedSearch.Floating
