import FacetedSearch.Calendar.Date
import FacetedSearch.Numeral

/-!
Contract: the dates and times of TOML.

Owns: `readMoment?`, a date, a time of day, or both with an optional offset, as its normal text:
a `T` before the time, `Z` or hours and minutes as the offset, and at most nine digits of a second's
fraction without zeros at the end.

Does not own: calculation with times.
-/

namespace FacetedSearch.Settings.Toml

/-- Reads a number of two digits up to a greatest one. -/
def readPair? (most : Nat) : List Char → Option (Nat × List Char)
  | first :: second :: rest =>
      ((Numeral.readDigits? [first, second]).filter fun value => value ≤ most).map
        fun value => (value, rest)
  | _ => none

def readDate? : List Char → Option (List Char × List Char)
  | a :: b :: c :: d :: '-' :: text => do
      let year ← Numeral.readDigits? [a, b, c, d]
      let (month, afterMonth) ← readPair? 12 text
      match afterMonth with
      | '-' :: text =>
          let (day, rest) ← readPair? 31 text
          (Calendar.Date.of? year month day).map fun date => (date.chars, rest)
      | _ => none
  | _ => none

/-- Reads the fraction of a second as its text; there may be none. -/
def readFraction : List Char → List Char × List Char
  | '.' :: text =>
      match text.takeWhile Char.isDigit with
      | [] => ([], '.' :: text)
      | digits =>
          let kept := ((digits.take 9).reverse.dropWhile (· == '0')).reverse
          (if kept.isEmpty then [] else '.' :: kept, text.dropWhile Char.isDigit)
  | text => ([], text)

def readTime? (text : List Char) : Option (List Char × List Char) := do
  let (hour, afterHour) ← readPair? 23 text
  match afterHour with
  | ':' :: text =>
      let (minute, afterMinute) ← readPair? 59 text
      match afterMinute with
      | ':' :: text =>
          let (second, afterSecond) ← readPair? 60 text
          let (fraction, rest) := readFraction afterSecond
          some
            (Numeral.padded 2 hour ++ ':' :: Numeral.padded 2 minute ++ ':' ::
              Numeral.padded 2 second ++ fraction, rest)
      | _ => none
  | _ => none

/-- Reads hours and minutes of an offset as their text; no offset is negative zero. -/
def readOffsetTime? (sign : Char) (text : List Char) : Option (List Char × List Char) := do
  let (hour, afterHour) ← readPair? 23 text
  match afterHour with
  | ':' :: text =>
      let (minute, rest) ← readPair? 59 text
      let shown := if hour = 0 ∧ minute = 0 then '+' else sign
      some (shown :: Numeral.padded 2 hour ++ ':' :: Numeral.padded 2 minute, rest)
  | _ => none

/-- Reads an offset as its text; there may be none. -/
def readOffset? : List Char → Option (List Char × List Char)
  | 'Z' :: rest | 'z' :: rest => some (['Z'], rest)
  | '+' :: text => readOffsetTime? '+' text
  | '-' :: text => readOffsetTime? '-' text
  | text => some ([], text)

/-- Reads the time and the offset after a date as their text; there may be none. -/
def readTimeAfterDate? : List Char → Option (List Char × List Char)
  | mark :: text =>
      if mark = 'T' ∨ mark = 't' ∨ mark = ' ' then
        match readTime? text with
        | none => some ([], mark :: text)
        | some (time, afterTime) =>
            (readOffset? afterTime).map fun offset => ('T' :: time ++ offset.1, offset.2)
      else some ([], mark :: text)
  | [] => some ([], [])

/-- Reads a date, a time of day, or both, as its normal text. -/
def readMoment? (text : List Char) : Option (String × List Char) :=
  match readDate? text with
  | some (date, afterDate) =>
      (readTimeAfterDate? afterDate).map fun time => (String.ofList (date ++ time.1), time.2)
  | none => (readTime? text).map fun time => (String.ofList time.1, time.2)

end FacetedSearch.Settings.Toml
