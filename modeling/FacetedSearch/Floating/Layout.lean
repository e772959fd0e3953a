import FacetedSearch.Floating.Shortest

/-!
Contract: the texts of floating-point numbers.

Owns: `Layout`, the decisions of one written form, and `Layout.render`.
Does not own: which form a text uses; each module that writes numbers names its layout.
-/

namespace FacetedSearch.Floating

/-- The decisions of one written form. -/
structure Layout where
  /-- Which exponents of the leading digit are written without an exponent. -/
  positional : Int → Bool
  /-- Whether integral values keep a point and a zero. -/
  keepsPoint : Bool
  /-- Whether exponents that are not negative carry a plus sign. -/
  plusSign : Bool
  /-- Which of two equally near decimals is written. -/
  tie : Tie

namespace Layout

def positionalDigits (layout : Layout) (digits : List Char) (exponent : Int) : List Char :=
  if exponent ≥ 0 then
    digits ++ List.replicate exponent.toNat '0' ++ (if layout.keepsPoint then ['.', '0'] else [])
  else
    let places := (-exponent).toNat
    if places < digits.length then
      digits.take (digits.length - places) ++ '.' :: digits.drop (digits.length - places)
    else
      ['0', '.'] ++ List.replicate (places - digits.length) '0' ++ digits

/-- Digits with a point after the first one and an exponent. -/
def scientificDigits (layout : Layout) (digits : List Char) (leading : Int) : List Char :=
  let sign :=
    if leading < 0 then ['-'] else if layout.plusSign then ['+'] else []
  digits.take 1 ++ (if digits.length > 1 then '.' :: digits.drop 1 else []) ++ 'e' :: sign ++
    Nat.toDigits 10 leading.natAbs

def renderDecimal (layout : Layout) (decimal : Decimal) : List Char :=
  let digits := Nat.toDigits 10 decimal.digits
  let leading := decimal.exponent + digits.length - 1
  if layout.positional leading then layout.positionalDigits digits decimal.exponent
  else layout.scientificDigits digits leading

def renderChars (layout : Layout) {format : Format} : Floating format → List Char
  | .finite negative code =>
      (if negative then ['-'] else []) ++
        (if code.val = 0 then layout.renderDecimal ⟨0, 0⟩
        else layout.renderDecimal (format.shortest layout.tie code))
  | .infinite negative => (if negative then ['-'] else []) ++ ['i', 'n', 'f']
  | .notANumber => ['N', 'a', 'N']

def render (layout : Layout) {format : Format} (number : Floating format) : String :=
  String.ofList (layout.renderChars number)

end Layout

/-- Numbers written out in full: no exponent and no point without need. -/
def plainLayout : Layout where
  positional := fun _ => true
  keepsPoint := false
  plusSign := false
  tie := .upward

/-- Numbers that show their kind: integral values keep a point, and exponents below -4 or above
15 are written as such. -/
def markedLayout : Layout where
  positional := fun leading => -4 ≤ leading && leading < 16
  keepsPoint := true
  plusSign := false
  tie := .upward

end FacetedSearch.Floating
