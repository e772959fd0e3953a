import FacetedSearch.Floating.Layout
import FacetedSearch.Floating.Literal
import FacetedSearch.Numeral

/-!
Contract: the numbers of JSON texts.

Owns:
- `Literal`, a number as written, and the grammar of written numbers;
- `Number`, an integer of 64 bits, signed or not, or a floating-point number;
- `Literal.number?`, the value of a written number;
- the text of a number.

A written number is read with one rounding of its leading digits, as many as fit into 64 bits,
and one product or quotient with a power of ten, so the last bit of a long literal need not be
the nearest one.

Does not own: where numbers may stand.
-/

namespace FacetedSearch.Json

open Floating

/-- A number in a JSON text. Integers lie between `-2 ^ 63` and `2 ^ 64 - 1`. -/
inductive Number where
  | integer (value : Int)
  | floating (value : Double)
deriving DecidableEq, Repr

/-- Floating-point numbers in JSON texts always have a point or an exponent; positional notation
ends below `10 ^ -5` and from `10 ^ 16` on. -/
def numberLayout : Layout where
  positional := fun leading => -5 ≤ leading && leading < 16
  keepsPoint := true
  plusSign := true
  tie := .toEven

namespace Number

def chars : Number → List Char
  | .integer value => (if value < 0 then ['-'] else []) ++ Nat.toDigits 10 value.natAbs
  | .floating value => numberLayout.renderChars value

def text (number : Number) : String :=
  String.ofList number.chars

/-- The number as an unsigned integer of 64 bits. -/
def asWord? : Number → Option UInt64
  | .integer value =>
      if 0 ≤ value ∧ value ≤ Numeral.maxWord then some value.toNat.toUInt64 else none
  | .floating _ => none

/-- The number as a signed integer of 64 bits. -/
def asInt64? : Number → Option Int64
  | .integer value =>
      if Numeral.minInt64 ≤ value ∧ value ≤ Numeral.maxInt64 then some (Int64.ofInt value) else none
  | .floating _ => none

/-- The floating-point number nearest to the number. -/
def toDouble : Number → Double
  | .integer value => ofNat (value < 0) value.natAbs
  | .floating value => value

end Number

/-- A number as written: no fraction is an empty one, and an exponent has a sign. -/
structure Literal where
  negative : Bool
  whole : List Char
  fraction : List Char
  exponent : Option (Bool × List Char)
deriving DecidableEq, Repr

namespace Literal

/-- Reads an exponent with its mark; the empty text is no exponent. -/
def readExponent? : List Char → Option (Option (Bool × List Char))
  | [] => some none
  | mark :: rest =>
      if mark = 'e' ∨ mark = 'E' then
        let (negative, digits) :=
          match rest with
          | '-' :: digits => (true, digits)
          | '+' :: digits => (false, digits)
          | digits => (false, digits)
        if digits ≠ [] ∧ digits.all Char.isDigit then some (some (negative, digits)) else none
      else none

/-- Reads a written number: digits without needless zeros in front, then a fraction and an
exponent if there are any. -/
def read? (text : List Char) : Option Literal :=
  let (negative, unsigned) :=
    match text with
    | '-' :: rest => (true, rest)
    | _ => (false, text)
  let (whole, afterWhole) := leadingDigits unsigned
  let (fraction, afterFraction) := fractionDigits afterWhole
  if whole = [] ∨ (whole.head? = some '0' ∧ whole.length > 1) ∨
      (fraction = [] ∧ afterWhole.head? = some '.') then none
  else
    (readExponent? afterFraction).map fun exponent => ⟨negative, whole, fraction, exponent⟩

/-- Appends digits to a significand while it fits into 64 bits; the rest is left over. -/
def appendFitting (significand : Nat) : List Char → Nat × List Char
  | [] => (significand, [])
  | digit :: rest =>
      let longer := significand * 10 + (digit.toNat - '0'.toNat)
      if longer ≤ Numeral.maxWord then appendFitting longer rest else (significand, digit :: rest)

/-- The greatest power of ten that scaling uses. -/
def greatestScale : Nat := 308

/-- A number divided by ten to the power of `places`, in steps of the greatest scale. -/
def scaleDown (number : Double) (places : Nat) : Double :=
  if places ≤ greatestScale then quotient number (ofNat false (Nat.pow 10 places))
  else if number.isZero then number
  else scaleDown (quotient number (ofNat false (Nat.pow 10 greatestScale))) (places - greatestScale)
termination_by places
decreasing_by
  simp only [greatestScale] at *
  omega

/-- A significand times a power of ten; nothing if it is beyond all finite numbers. -/
def scale? (negative : Bool) (significand : Nat) (exponent : Int) : Option Double :=
  if significand = 0 then some (ofCode negative 0)
  else if exponent < 0 then some (scaleDown (ofNat negative significand) (-exponent).toNat)
  else if exponent > greatestScale then none
  else
    match product (ofNat negative significand) (ofNat false (Nat.pow 10 exponent.toNat)) with
    | .infinite _ => none
    | number => some number

/-- Exponents up to this number are counted; greater ones overflow or vanish. -/
def greatestExponent : Nat := 2147483647

/-- The value of a written number; nothing if it is beyond all finite numbers. -/
def number? (literal : Literal) : Option Number :=
  let (significand, unread) := appendFitting 0 literal.whole
  if literal.fraction = [] ∧ literal.exponent = none ∧ unread = [] then
    if !literal.negative then some (.integer significand)
    else if 0 < significand ∧ Numeral.minInt64 ≤ -significand then some (.integer (-significand))
    else some (.floating (ofNat true significand))
  else
    let (significand, dropped) := appendFitting significand literal.fraction
    let places : Int := unread.length - (literal.fraction.length - dropped.length : Nat)
    match literal.exponent with
    | none => (scale? literal.negative significand places).map .floating
    | some (negative, digits) =>
        let exponent := Nat.ofDigitChars 10 digits 0
        if exponent ≤ greatestExponent then
          let shift : Int := if negative then -exponent else exponent
          (scale? literal.negative significand (places + shift)).map .floating
        else if negative ∨ significand = 0 then some (.floating (ofCode literal.negative 0))
        else none

end Literal

end FacetedSearch.Json
