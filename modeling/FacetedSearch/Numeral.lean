/-!
Contract: decimal numerals of integers.

Owns:
- reading a numeral of ASCII digits with an optional sign, within bounds;
- writing a natural number with a least number of digits;
- the bounds of words of 32 and of 64 bits, signed or not.

Leading zeros are read; a sign without digits, blanks and any other character are not.

Does not own: fractions and exponents.
-/

namespace FacetedSearch.Numeral

/-- The value of a non-empty text of ASCII digits. -/
def readDigits? (text : List Char) : Option Nat :=
  if text ≠ [] ∧ text.all Char.isDigit then some (Nat.ofDigitChars 10 text 0) else none

/-- The number of a numeral with an optional plus sign, if it is at most `most`. -/
def readNat? (most : Nat) (text : List Char) : Option Nat :=
  let digits :=
    match text with
    | '+' :: rest => rest
    | _ => text
  (readDigits? digits).filter fun value => value ≤ most

/-- The integer of a numeral with an optional sign, if it lies between the bounds. -/
def readInt? (least most : Int) (text : List Char) : Option Int :=
  let value : Option Int :=
    match text with
    | '-' :: digits => (readDigits? digits).map fun value => -(value : Int)
    | '+' :: digits => (readDigits? digits).map fun value => (value : Int)
    | digits => (readDigits? digits).map fun value => (value : Int)
  value.filter fun value => least ≤ value ∧ value ≤ most

/-- The digits of a number, with zeros in front up to the given width. -/
def padded (width value : Nat) : List Char :=
  let digits := Nat.toDigits 10 value
  List.replicate (width - digits.length) '0' ++ digits

/-- The largest unsigned 32-bit word. -/
def maxHalfWord : Nat :=
  4294967295

/-- The largest unsigned 64-bit word. -/
def maxWord : Nat :=
  18446744073709551615

def minInt32 : Int :=
  -2147483648

def maxInt32 : Int :=
  2147483647

def minInt64 : Int :=
  -9223372036854775808

def maxInt64 : Int :=
  9223372036854775807

end FacetedSearch.Numeral
