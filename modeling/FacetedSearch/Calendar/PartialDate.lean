import FacetedSearch.Calendar.Date
import FacetedSearch.Text.Blank
import FacetedSearch.Text.DecimalDigit

/-!
Contract: dates that may leave out the day or the month.

Owns:
- `DateParts.read?`, the form of a partial date: `yyyy`, `yyyy-M`, `yyyy-M-d`, or such a day with
  a time of day and an optional offset, months, days and hours with one or two digits;
- `Period`, the days that a partial date covers;
- `readPeriod?`, the period of a text.

Digits of any script fit the form, but only ASCII digits have a value. A year needs one. A month
without a value leaves the whole year, a day without a value the whole month, and a time without
a value is not checked.

Does not own: the wording of a refusal.
-/

namespace FacetedSearch.Calendar

open FacetedSearch.Text

/-- The digit groups of a partial date. -/
structure DateParts where
  year : List Char
  month : Option (List Char)
  day : Option (List Char)
  hour : Option (List Char)
  minute : Option (List Char)
  second : Option (List Char)
deriving DecidableEq, Repr

/-- The digits at the start of a text and the rest, if their number lies within the bounds. -/
def digitGroup? (least most : Nat) (text : List Char) : Option (List Char × List Char) :=
  let group := text.takeWhile isDecimalDigit
  if least ≤ group.length ∧ group.length ≤ most then
    some (group, text.dropWhile isDecimalDigit)
  else none

/-- The rest after an optional fraction of a second; a point without digits is none. -/
def skipFraction : List Char → List Char
  | '.' :: rest =>
      let after := rest.dropWhile isDecimalDigit
      if after.length < rest.length then after else '.' :: rest
  | text => text

/-- Whether the text is empty, the mark of universal time, or a numeric offset. -/
def isOffset : List Char → Bool
  | [] => true
  | ['Z'] => true
  | sign :: text =>
      (sign == '+' || sign == '-') &&
        match digitGroup? 4 4 text with
        | some (_, rest) => rest.isEmpty
        | none =>
            match digitGroup? 2 2 text with
            | some (_, ':' :: rest) =>
                match digitGroup? 2 2 rest with
                | some (_, []) => true
                | _ => false
            | _ => false

/-- Hour, minute and second of a time of day with an optional offset. -/
def readTime? (text : List Char) :
    Option (List Char × List Char × Option (List Char)) :=
  match digitGroup? 1 2 text with
  | some (hour, ':' :: afterHour) =>
      match digitGroup? 2 2 afterHour with
      | some (minute, ':' :: afterMinute) =>
          match digitGroup? 2 2 afterMinute with
          | some (second, rest) =>
              if isOffset (skipFraction rest) then some (hour, minute, some second) else none
          | none => none
      | some (minute, rest) => if isOffset rest then some (hour, minute, none) else none
      | none => none
  | _ => none

/-- The digit groups of a text that has the form of a partial date. -/
def DateParts.read? (text : List Char) : Option DateParts :=
  match digitGroup? 4 4 text with
  | some (year, []) => some ⟨year, none, none, none, none, none⟩
  | some (year, '-' :: afterYear) =>
      match digitGroup? 1 2 afterYear with
      | some (month, []) => some ⟨year, some month, none, none, none, none⟩
      | some (month, '-' :: afterMonth) =>
          match digitGroup? 1 2 afterMonth with
          | some (day, []) => some ⟨year, some month, some day, none, none, none⟩
          | some (day, mark :: afterDay) =>
              if mark = 'T' ∨ mark = ' ' then
                (readTime? afterDay).map fun (hour, minute, second) =>
                  ⟨year, some month, some day, some hour, some minute, second⟩
              else none
          | none => none
      | _ => none
  | _ => none

/-- The days from `first` to `last`, both included. -/
structure Period where
  first : Date
  last : Date
deriving DecidableEq

def Period.isSingleDay (period : Period) : Bool :=
  period.first == period.last

def Period.year (year : Nat) : Period :=
  ⟨.firstOfMonth year 1 (by decide), .lastOfYear year⟩

/-- From the first day of a month to the day before the first of the next month. -/
def Period.month? (year month : Nat) (isMonth : 1 ≤ month ∧ month ≤ 12) : Option Period :=
  let first := Date.firstOfMonth year month isMonth
  (first.addMonths 1).previous?.map fun last => ⟨first, last⟩

def groupValue? (group : Option (List Char)) : Option Nat :=
  group.bind Numeral.readDigits?

/-- Whether the digit groups name a time of day; groups without a value are not checked. -/
def DateParts.hasValidTime (parts : DateParts) : Bool :=
  match groupValue? parts.hour, groupValue? parts.minute with
  | some hour, some minute =>
      hour < 24 && minute < 60 && (groupValue? parts.second).getD 0 < 60
  | _, _ => true

/-- The period of the digit groups, if the groups with a value name existing days. -/
def DateParts.period? (parts : DateParts) : Option Period :=
  match Numeral.readDigits? parts.year with
  | none => none
  | some year =>
      match groupValue? parts.month with
      | none => some (.year year)
      | some month =>
          if isMonth : 1 ≤ month ∧ month ≤ 12 then
            match groupValue? parts.day with
            | none => Period.month? year month isMonth
            | some day =>
                match Date.of? year month day with
                | none => none
                | some date => if parts.hasValidTime then some ⟨date, date⟩ else none
          else none

/-- The period of a partial date, blanks around it ignored. -/
def readPeriod? (text : String) : Option Period :=
  (DateParts.read? (trimBlanks text.toList)).bind DateParts.period?

end FacetedSearch.Calendar
