import FacetedSearch.Floating.Rounding

/-!
Contract: reading floating-point numbers from texts.

Owns: `readFloating?`. A literal is an optional sign followed by digits with an optional point
and an optional exponent, or by a word for infinity or not-a-number in any case. All digits are
ASCII digits, and at least one stands before or after the point.

Does not own: blanks around a literal.
-/

namespace FacetedSearch.Floating

/-- The leading ASCII digits of a text and the rest. -/
def leadingDigits (text : List Char) : List Char × List Char :=
  (text.takeWhile Char.isDigit, text.dropWhile Char.isDigit)

/-- The digits after a point at the start of a text, and the rest. -/
def fractionDigits (text : List Char) : List Char × List Char :=
  match text with
  | '.' :: rest => leadingDigits rest
  | _ => ([], text)

/-- The value of a text that is an exponent with its mark, zero for the empty text. -/
def exponentValue? (text : List Char) : Option Int :=
  let unsigned (digits : List Char) : Option Int :=
    if digits ≠ [] ∧ digits.all Char.isDigit then some (Nat.ofDigitChars 10 digits 0) else none
  match text with
  | [] => some 0
  | mark :: rest =>
      if mark = 'e' ∨ mark = 'E' then
        match rest with
        | '-' :: digits => (unsigned digits).map (- ·)
        | '+' :: digits => unsigned digits
        | digits => unsigned digits
      else none

variable {format : Format}

def readUnsigned? (negative : Bool) (text : List Char) : Option (Floating format) :=
  let word := text.map Char.toLower
  if word = ['i', 'n', 'f'] ∨ word = ['i', 'n', 'f', 'i', 'n', 'i', 't', 'y'] then
    some (.infinite negative)
  else if word = ['n', 'a', 'n'] then some .notANumber
  else
    let (whole, afterWhole) := leadingDigits text
    let (fraction, afterFraction) := fractionDigits afterWhole
    if whole.isEmpty && fraction.isEmpty then none
    else
      (exponentValue? afterFraction).map fun exponent =>
        ofDecimal negative (Nat.ofDigitChars 10 (whole ++ fraction) 0) (exponent - fraction.length)

/-- The number of a literal, correctly rounded. -/
def readFloating? : List Char → Option (Floating format)
  | '-' :: text => readUnsigned? true text
  | '+' :: text => readUnsigned? false text
  | text => readUnsigned? false text

end FacetedSearch.Floating
