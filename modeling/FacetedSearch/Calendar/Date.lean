import FacetedSearch.Numeral

/-!
Contract: days of the proleptic Gregorian calendar.

Owns:
- `Date`, whose type admits only days that exist;
- the order of days;
- steps from a day to the same day some months later, and to the day before;
- the text of a day, `YYYY-MM-DD`.

Does not own: times of day and time zones.
-/

namespace FacetedSearch.Calendar

def isLeapYear (year : Nat) : Bool :=
  year % 4 == 0 && (year % 100 != 0 || year % 400 == 0)

def daysInMonth (year month : Nat) : Nat :=
  if month = 2 then if isLeapYear year then 29 else 28
  else if month = 4 ∨ month = 6 ∨ month = 9 ∨ month = 11 then 30
  else 31

theorem daysInMonth_bounds (year month : Nat) :
    28 ≤ daysInMonth year month ∧ daysInMonth year month ≤ 31 := by
  unfold daysInMonth
  split
  · split <;> decide
  · split <;> decide

def IsDay (year month day : Nat) : Prop :=
  1 ≤ month ∧ month ≤ 12 ∧ 1 ≤ day ∧ day ≤ daysInMonth year month

instance (year month day : Nat) : Decidable (IsDay year month day) := by
  unfold IsDay
  infer_instance

/-- A day that exists. -/
structure Date where
  year : Nat
  month : Nat
  day : Nat
  isDay : IsDay year month day
deriving DecidableEq

namespace Date

/-- The day with the given numbers, if it exists. -/
def of? (year month day : Nat) : Option Date :=
  if isDay : IsDay year month day then some ⟨year, month, day, isDay⟩ else none

/-- Days by year, then month, then day. -/
def Before (earlier later : Date) : Prop :=
  earlier.year < later.year ∨
    (earlier.year = later.year ∧
      (earlier.month < later.month ∨ (earlier.month = later.month ∧ earlier.day < later.day)))

/-- The text `YYYY-MM-DD`. -/
def chars (date : Date) : List Char :=
  Numeral.padded 4 date.year ++ '-' :: Numeral.padded 2 date.month ++ '-' ::
    Numeral.padded 2 date.day

/-- The text `YYYY-MM-DD`. -/
def text (date : Date) : String :=
  String.ofList date.chars

theorem isDay_first (year : Nat) {month : Nat} (isMonth : 1 ≤ month ∧ month ≤ 12) :
    IsDay year month 1 :=
  ⟨isMonth.1, isMonth.2, Nat.le_refl 1,
    Nat.le_trans (by decide) (daysInMonth_bounds year month).1⟩

theorem isDay_last (year : Nat) {month : Nat} (isMonth : 1 ≤ month ∧ month ≤ 12) :
    IsDay year month (daysInMonth year month) :=
  ⟨isMonth.1, isMonth.2, (isDay_first year isMonth).2.2.2, Nat.le_refl _⟩

def firstOfMonth (year month : Nat) (isMonth : 1 ≤ month ∧ month ≤ 12) : Date :=
  ⟨year, month, 1, isDay_first year isMonth⟩

def lastOfMonth (year month : Nat) (isMonth : 1 ≤ month ∧ month ≤ 12) : Date :=
  ⟨year, month, daysInMonth year month, isDay_last year isMonth⟩

def lastOfYear (year : Nat) : Date :=
  lastOfMonth year 12 (by decide)

theorem isDay_of_le {year month day earlier : Nat} (isDay : IsDay year month day)
    (least : 1 ≤ earlier) (notLater : earlier ≤ day) : IsDay year month earlier :=
  ⟨isDay.1, isDay.2.1, least, Nat.le_trans notLater isDay.2.2.2⟩

/-- A day that is too late for a month is moved to the end of the month. -/
theorem isDay_min (year : Nat) {month day : Nat} (isMonth : 1 ≤ month ∧ month ≤ 12)
    (least : 1 ≤ day) : IsDay year month (min day (daysInMonth year month)) :=
  have last := isDay_last year isMonth
  isDay_of_le last (Nat.le_min.2 ⟨least, last.2.2.1⟩) (Nat.min_le_right _ _)

/-- The same day some months later, or the last day of that month if the month is too short. -/
def addMonths (date : Date) (count : Nat) : Date :=
  let months := date.year * 12 + (date.month - 1) + count
  ⟨months / 12, months % 12 + 1, min date.day (daysInMonth (months / 12) (months % 12 + 1)),
    isDay_min _ ⟨Nat.le_add_left 1 _, Nat.mod_lt months (by decide)⟩ date.isDay.2.2.1⟩

/-- The day before. There is none before the first day of the year 0. -/
def previous? (date : Date) : Option Date :=
  if laterDay : 1 < date.day then
    some ⟨date.year, date.month, date.day - 1,
      isDay_of_le date.isDay (Nat.le_sub_one_of_lt laterDay) (Nat.sub_le _ 1)⟩
  else if laterMonth : 1 < date.month then
    some (lastOfMonth date.year (date.month - 1)
      ⟨Nat.le_sub_one_of_lt laterMonth, Nat.le_trans (Nat.sub_le _ 1) date.isDay.2.1⟩)
  else if 0 < date.year then some (lastOfYear (date.year - 1))
  else none

end Date

end FacetedSearch.Calendar
