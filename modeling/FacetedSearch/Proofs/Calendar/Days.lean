import FacetedSearch.Calendar.PartialDate

/-!
Contract: steps from day to day and from month to month.

Owns:
- `eq_of_not_before`: the order of days is total;
- `previous?_eq_some_iff`: the day before is the last one of all earlier days;
- `months_addMonths`: by how much the number of the month grows;
- `Period.wholeMonth`, and `month?_eq_some`: a month on from the first day of a month and one day
  back lies the last day of the month.

Does not own: the days between two days.
-/

namespace FacetedSearch.Calendar

namespace Date

variable {date earlier : Date}

theorem eq_of_not_before {left right : Date} (notBefore : ¬ left.Before right)
    (notAfter : ¬ right.Before left) : left = right := by
  obtain ⟨year, month, number, isDay⟩ := left
  obtain ⟨otherYear, otherMonth, otherNumber, isOther⟩ := right
  simp only [Before, mk.injEq] at *
  omega

/-- No day of a month comes after the last one. -/
theorem not_lastOfMonth_before {year month : Nat} {isMonth : 1 ≤ month ∧ month ≤ 12}
    {other : Date} (sameMonth : other.year = year ∧ other.month = month) :
    ¬ (lastOfMonth year month isMonth).Before other := by
  obtain ⟨rfl, rfl⟩ := sameMonth
  have inMonth := other.isDay.2.2.2
  simp only [Before, lastOfMonth]
  omega

/-! ## The day before -/

/-- The day before is earlier, and no day lies between. -/
theorem last_before_of_previous? (found : date.previous? = some earlier) :
    earlier.Before date ∧ ∀ other : Date, other.Before date → ¬ earlier.Before other := by
  unfold previous? at found
  split at found
  · rename_i laterDay
    cases found
    refine ⟨.inr ⟨rfl, .inr ⟨rfl, Nat.sub_one_lt_of_lt laterDay⟩⟩, fun other before after => ?_⟩
    simp only [Before] at before after
    omega
  · split at found
    · -- The day before is the last of its month, so a day between would be of the same month.
      rename_i laterMonth
      cases found
      refine ⟨.inr ⟨rfl, .inl (Nat.sub_one_lt_of_lt laterMonth)⟩, fun other before after => ?_⟩
      refine not_lastOfMonth_before ?_ after
      obtain ⟨-, -, leastDay, -⟩ := other.isDay
      simp only [Before, lastOfMonth] at before after
      omega
    · split at found
      · rename_i laterYear
        cases found
        refine ⟨.inl (Nat.sub_one_lt_of_lt laterYear), fun other before after => ?_⟩
        refine not_lastOfMonth_before ?_ after
        obtain ⟨leastMonth, mostMonth, leastDay, -⟩ := other.isDay
        simp only [Before, lastOfYear, lastOfMonth] at before after
        omega
      · cases found

theorem not_before_of_previous? (none : date.previous? = none) (other : Date) :
    ¬ other.Before date := by
  obtain ⟨leastMonth, mostMonth, leastDay, mostDay⟩ := date.isDay
  obtain ⟨otherLeastMonth, -, otherLeastDay, -⟩ := other.isDay
  unfold previous? at none
  split at none
  · cases none
  · split at none
    · cases none
    · split at none
      · cases none
      · simp only [Before]
        omega

/-- The day before is the last one of all earlier days. -/
theorem previous?_eq_some_iff :
    date.previous? = some earlier ↔
      earlier.Before date ∧ ∀ other : Date, other.Before date → ¬ earlier.Before other := by
  refine ⟨last_before_of_previous?, fun ⟨before, last⟩ => ?_⟩
  cases found : date.previous? with
  | none => exact absurd before (not_before_of_previous? found earlier)
  | some day =>
      obtain ⟨dayBefore, dayLast⟩ := last_before_of_previous? found
      rw [eq_of_not_before (dayLast earlier before) (last day dayBefore)]

/-! ## Months -/

/-- The number of the month, counted from the year 0, grows by the months that are added. -/
theorem months_addMonths (date : Date) (count : Nat) :
    (date.addMonths count).year * 12 + (date.addMonths count).month =
      date.year * 12 + date.month + count := by
  have least := date.isDay.1
  simp only [addMonths]
  omega

theorem day_addMonths_firstOfMonth (year : Nat) {month : Nat} (isMonth : 1 ≤ month ∧ month ≤ 12)
    (count : Nat) : ((firstOfMonth year month isMonth).addMonths count).day = 1 :=
  Nat.le_antisymm (Nat.min_le_left _ _)
    ((firstOfMonth year month isMonth).addMonths count).isDay.2.2.1

end Date

/-- From the first to the last day of a month. -/
def Period.wholeMonth (year month : Nat) (isMonth : 1 ≤ month ∧ month ≤ 12) : Period :=
  ⟨.firstOfMonth year month isMonth, .lastOfMonth year month isMonth⟩

/-- A month on from the first day of a month and one day back lies the last day of the month. -/
theorem month?_eq_some (year : Nat) {month : Nat} (isMonth : 1 ≤ month ∧ month ≤ 12) :
    Period.month? year month isMonth = some (.wholeMonth year month isMonth) := by
  let first := Date.firstOfMonth year month isMonth
  have nextMonth : (first.addMonths 1).year * 12 + (first.addMonths 1).month =
      year * 12 + month + 1 := first.months_addMonths 1
  have nextDay : (first.addMonths 1).day = 1 := Date.day_addMonths_firstOfMonth year isMonth 1
  obtain ⟨leastMonth, mostMonth, -, -⟩ := (first.addMonths 1).isDay
  have back : (first.addMonths 1).previous? = some (.lastOfMonth year month isMonth) := by
    refine Date.previous?_eq_some_iff.2 ⟨?_, fun other before after => ?_⟩
    · simp only [Date.Before, Date.lastOfMonth]
      omega
    · refine Date.not_lastOfMonth_before ?_ after
      obtain ⟨otherLeast, otherMost, leastDay, -⟩ := other.isDay
      simp only [Date.Before, Date.lastOfMonth] at before after
      omega
  exact congrArg (Option.map (Period.mk first)) back

end FacetedSearch.Calendar
