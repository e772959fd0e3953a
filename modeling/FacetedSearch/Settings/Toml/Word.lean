import FacetedSearch.Floating.Literal
import FacetedSearch.Settings.Scalar

/-!
Contract: the words of TOML that stand for truth values and numbers.

Owns:
- integers in decimal, hexadecimal, octal and binary notation, and floating-point numbers; a joint
  stands between two digits;
- `readWord?`, the value of a word.

Does not own: dates, times and strings.
-/

namespace FacetedSearch.Settings.Toml

/-- The value of a digit in the notations with a base of at most sixteen. -/
def digitValue? (c : Char) : Option Nat :=
  if c.isDigit then some (c.toNat - '0'.toNat)
  else if 'a' ≤ c ∧ c ≤ 'f' then some (c.toNat - 'a'.toNat + 10)
  else if 'A' ≤ c ∧ c ≤ 'F' then some (c.toNat - 'A'.toNat + 10)
  else none

/-- The value of some digits, each smaller than the base. -/
def readDigits? (base : Nat) (digits : List Char) : Option Nat :=
  digits.foldlM (fun value c =>
    ((digitValue? c).filter fun digit => digit < base).map fun digit => value * base + digit) 0

/-- The digits without joints; each joint stands between two digits. -/
def dropJoints? : List Char → Option (List Char)
  | [] => none
  | [digit] => if (digitValue? digit).isSome then some [digit] else none
  | digit :: '_' :: rest =>
      if (digitValue? digit).isSome then (dropJoints? rest).map (digit :: ·) else none
  | digit :: rest =>
      if (digitValue? digit).isSome then (dropJoints? rest).map (digit :: ·) else none

def decimalDigits? (text : List Char) : Option (List Char) :=
  (dropJoints? text).filter fun digits => digits.all Char.isDigit

/-- The integer of digits in a base, if it has 64 bits with its sign. -/
def basedInteger? (base : Nat) (text : List Char) : Option Scalar :=
  let value := (dropJoints? text).bind (readDigits? base)
  (value.filter fun (value : Nat) => (value : Int) ≤ Numeral.maxInt64).map fun value =>
    .integer (Int64.ofNat value)

/-- Whether digits before a point have no needless zero in front. -/
def isPlainWhole (digits : List Char) : Bool :=
  digits.length == 1 || digits.head? != some '0'

def isDigitOrJoint (c : Char) : Bool :=
  c.isDigit || c == '_'

/-- The digits of an exponent, with a minus sign if there is one. -/
def exponentDigits? (text : List Char) : Option (List Char) :=
  match text with
  | '-' :: digits => (decimalDigits? digits).map ('-' :: ·)
  | '+' :: digits => decimalDigits? digits
  | digits => decimalDigits? digits

/-- The numeral of a number with a fraction or an exponent, without its sign and its joints. -/
def floatingDigits? (text : List Char) : Option (List Char) := do
  let whole ← decimalDigits? (text.takeWhile isDigitOrJoint)
  let afterWhole := text.dropWhile isDigitOrJoint
  let (fraction, afterFraction) ←
    match afterWhole with
    | '.' :: rest =>
        (decimalDigits? (rest.takeWhile isDigitOrJoint)).map fun digits =>
          ('.' :: digits, rest.dropWhile isDigitOrJoint)
    | _ => some ([], afterWhole)
  let exponent ←
    match afterFraction with
    | [] => some []
    | mark :: rest =>
        if mark = 'e' ∨ mark = 'E' then (exponentDigits? rest).map ('e' :: ·) else none
  if isPlainWhole whole then some (whole ++ fraction ++ exponent) else none

/-- The number of a decimal numeral with an optional sign. A numeral above every finite number is
refused. -/
def readDecimal? (word : List Char) : Option Scalar :=
  let (sign, unsigned) :=
    match word with
    | '-' :: rest => (['-'], rest)
    | '+' :: rest => ([], rest)
    | _ => ([], word)
  if unsigned = "inf".toList ∨ unsigned = "nan".toList then
    (Floating.readFloating? (sign ++ unsigned)).map .floating
  else
    match decimalDigits? unsigned with
    | some digits =>
        if isPlainWhole digits then
          (Numeral.readInt? Numeral.minInt64 Numeral.maxInt64 (sign ++ digits)).map fun value =>
            .integer (Int64.ofInt value)
        else none
    | none =>
        (floatingDigits? unsigned).bind fun digits =>
          match Floating.readFloating? (sign ++ digits) with
          | some (.infinite false) | none => none
          | some number => some (.floating number)

def readWord? (word : List Char) : Option Scalar :=
  match word with
  | '0' :: 'x' :: digits => basedInteger? 16 digits
  | '0' :: 'o' :: digits => basedInteger? 8 digits
  | '0' :: 'b' :: digits => basedInteger? 2 digits
  | _ =>
      if word = "true".toList then some (.boolean true)
      else if word = "false".toList then some (.boolean false)
      else readDecimal? word

def isWordCharacter (c : Char) : Bool :=
  c.isAlphanum || c == '_' || c == '-' || c == '+' || c == '.'

end FacetedSearch.Settings.Toml
