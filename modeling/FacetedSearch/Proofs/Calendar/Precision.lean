import FacetedSearch.Proofs.Calendar.Coverage

/-!
Contract: how precise the periods of partial dates are.

Owns:
- `Period.IsWithinMonth`, with `isWithinMonth_iff` and `isSingleDay_iff`: which groups of a date
  need a value for its period to be a month or a day at most;
- `GoesOnBehindYear` and `GoesOnBehindMonth`, what a text states besides the year and the month,
  whatever script its digits belong to;
- `readPeriod_isAsPrecise_iff`: a period is as precise as its text exactly if the month and the day
  are written in ASCII digits.

A month or a day in the digits of another script has the form of a date and no value. It is left
out, and the period is longer than the one that the text states.

Does not own: times of day.
-/

namespace FacetedSearch

namespace Calendar

open Text

/-! ## Periods of digit groups -/

/-- Whether a period begins and ends in the same month. -/
def Period.IsWithinMonth (period : Period) : Prop :=
  period.first.year = period.last.year ∧ period.first.month = period.last.month

namespace DateParts

variable {parts : DateParts} {period : Period}

/-- The period of some digit groups is the shortest one that the groups with a value name. -/
theorem period?_cases (read : parts.period? = some period) :
    (groupValue? parts.month = none ∧ ∃ year, period = .year year) ∨
      (∃ month, groupValue? parts.month = some month ∧ groupValue? parts.day = none ∧
        ∃ year isMonth, period = .wholeMonth year month isMonth) ∨
      ∃ month day, groupValue? parts.month = some month ∧ groupValue? parts.day = some day ∧
        ∃ date, period = ⟨date, date⟩ := by
  cases isYear : Numeral.readDigits? parts.year with
  | none => simp [period?, isYear] at read
  | some year =>
      cases isMonth : groupValue? parts.month with
      | none =>
          rw [period?_of_year isYear isMonth, Option.some.injEq] at read
          exact .inl ⟨rfl, year, read.symm⟩
      | some month =>
          cases isDay : groupValue? parts.day with
          | none =>
              obtain ⟨inYear, rfl⟩ := (period?_of_month isYear isMonth isDay).1 read
              exact .inr (.inl ⟨month, rfl, rfl, year, inYear, rfl⟩)
          | some day =>
              obtain ⟨-, date, -, rfl⟩ := (period?_of_day isYear isMonth isDay).1 read
              exact .inr (.inr ⟨month, day, rfl, rfl, date, rfl⟩)

/-- A period lies within a month exactly if the month has a value. -/
theorem isWithinMonth_iff (read : parts.period? = some period) :
    period.IsWithinMonth ↔ (groupValue? parts.month).isSome = true := by
  rcases period?_cases read with ⟨noMonth, year, rfl⟩ | ⟨month, isMonth, -, year, inYear, rfl⟩ |
    ⟨month, day, isMonth, -, date, rfl⟩
  · rw [noMonth]
    refine iff_of_false (fun within => ?_) (by simp)
    exact absurd within.2
      (by simp [Period.year, Date.firstOfMonth, Date.lastOfYear, Date.lastOfMonth])
  · rw [isMonth]
    exact iff_of_true ⟨rfl, rfl⟩ rfl
  · rw [isMonth]
    exact iff_of_true ⟨rfl, rfl⟩ rfl

/-- A period is a single day exactly if the month and the day have values. -/
theorem isSingleDay_iff (read : parts.period? = some period) :
    period.isSingleDay = true ↔
      (groupValue? parts.month).isSome = true ∧ (groupValue? parts.day).isSome = true := by
  rw [Period.isSingleDay, beq_iff_eq]
  rcases period?_cases read with ⟨noMonth, year, rfl⟩ | ⟨month, isMonth, noDay, year, inYear, rfl⟩ |
    ⟨month, day, isMonth, isDay, date, rfl⟩
  · rw [noMonth]
    refine iff_of_false (fun same => ?_) (by simp)
    exact absurd (congrArg Date.month same)
      (by simp [Period.year, Date.firstOfMonth, Date.lastOfYear, Date.lastOfMonth])
  · rw [noDay]
    refine iff_of_false (fun same => ?_) (by simp)
    have sameDay : 1 = daysInMonth year month := congrArg Date.day same
    have atLeast := (daysInMonth_bounds year month).1
    omega
  · rw [isMonth, isDay]
    exact iff_of_true rfl ⟨rfl, rfl⟩

end DateParts

/-! ## Texts -/

/-- Whether a text goes on behind the four digits of a year. -/
def GoesOnBehindYear (text : List Char) : Prop :=
  ∃ year rest, IsGroup isDecimalDigit 4 4 year ∧ rest ≠ [] ∧ text = year ++ rest

/-- Whether a text goes on behind the digits of a month. -/
def GoesOnBehindMonth (text : List Char) : Prop :=
  ∃ year month rest, IsGroup isDecimalDigit 4 4 year ∧ IsGroup isDecimalDigit 1 2 month ∧
    EndsGroup rest ∧ rest ≠ [] ∧ text = year ++ '-' :: (month ++ rest)

theorem IsGroup.append_inj {isDigit : Char → Bool} {size : Nat}
    {group other rest others : List Char} (isGroup : IsGroup isDigit size size group)
    (isOther : IsGroup isDigit size size other) (same : group ++ rest = other ++ others) :
    group = other ∧ rest = others := by
  have groupSize := Nat.le_antisymm isGroup.atMost isGroup.atLeast
  have otherSize := Nat.le_antisymm isOther.atMost isOther.atLeast
  exact List.append_inj same (groupSize.trans otherSize.symm)

/-- A text of a year and a month does not go on behind the month. -/
theorem not_goesOnBehindMonth {year month : List Char} (isYear : IsGroup isDecimalDigit 4 4 year)
    (isMonth : IsGroup isDecimalDigit 1 2 month) :
    ¬ GoesOnBehindMonth (year ++ '-' :: month) := by
  rintro ⟨otherYear, otherMonth, rest, isOtherYear, -, ends, someRest, split⟩
  obtain ⟨-, tails⟩ := isYear.append_inj isOtherYear split
  obtain ⟨c, others, rfl⟩ := List.exists_cons_of_ne_nil someRest
  have isDigit : isDecimalDigit c = true := by
    apply isMonth.digits c
    rw [(List.cons.inj tails).2]
    simp
  rw [endsGroup_cons_iff.1 ends] at isDigit
  cases isDigit

namespace DateParts.Form

variable {parts : DateParts} {text : List Char}

theorem goesOnBehindYear_iff (form : parts.Form isDecimalDigit text) :
    GoesOnBehindYear text ↔ parts.month.isSome = true := by
  cases form with
  | year isYear =>
      refine iff_of_false ?_ (by simp)
      rintro ⟨other, rest, isOther, someRest, split⟩
      obtain ⟨-, isNil⟩ := isYear.append_inj isOther ((List.append_nil _).trans split)
      exact someRest isNil.symm
  | month isYear isMonth => exact iff_of_true ⟨_, _, isYear, List.cons_ne_nil _ _, rfl⟩ rfl
  | day isYear isMonth isDay => exact iff_of_true ⟨_, _, isYear, List.cons_ne_nil _ _, rfl⟩ rfl
  | moment isYear isMonth isDay isMark isTime =>
      exact iff_of_true ⟨_, _, isYear, List.cons_ne_nil _ _, rfl⟩ rfl

theorem goesOnBehindMonth_iff (form : parts.Form isDecimalDigit text) :
    GoesOnBehindMonth text ↔ parts.day.isSome = true := by
  cases form with
  | year isYear =>
      refine iff_of_false ?_ (by simp)
      rintro ⟨other, month, rest, isOther, -, -, -, split⟩
      obtain ⟨-, isNil⟩ := isYear.append_inj isOther ((List.append_nil _).trans split)
      cases isNil
  | month isYear isMonth => exact iff_of_false (not_goesOnBehindMonth isYear isMonth) (by simp)
  | day isYear isMonth isDay =>
      exact iff_of_true
        ⟨_, _, _, isYear, isMonth, hyphen_endsGroup _, List.cons_ne_nil _ _, rfl⟩ rfl
  | moment isYear isMonth isDay isMark isTime =>
      exact iff_of_true
        ⟨_, _, _, isYear, isMonth, hyphen_endsGroup _, List.cons_ne_nil _ _, rfl⟩ rfl

end DateParts.Form

/-! ## Digits with values -/

theorem groupValue?_isSome_iff {least most : Nat} {group : List Char}
    (isGroup : IsGroup isDecimalDigit (least + 1) most group) :
    (groupValue? (some group)).isSome = true ↔ ∀ c ∈ group, c.isDigit = true := by
  constructor
  · intro hasValue c member
    by_contra notDigit
    have noValue : Numeral.readDigits? group = none :=
      if_neg fun digits => notDigit (List.all_eq_true.1 digits.2 c member)
    simp [groupValue?, noValue] at hasValue
  · intro digits
    have ascii : IsGroup Char.isDigit (least + 1) most group :=
      isGroup.mono fun c member _ => digits c member
    rw [ascii.groupValue?]
    rfl

/-- Whether the month and the day of some digit groups, as far as there are groups for them, have
ASCII digits only. -/
def DateParts.IsAscii (parts : DateParts) : Prop :=
  (∀ month ∈ parts.month, ∀ c ∈ month, c.isDigit = true) ∧
    ∀ day ∈ parts.day, ∀ c ∈ day, c.isDigit = true

theorem DateParts.Form.isAscii_iff {parts : DateParts} {text : List Char}
    (form : parts.Form isDecimalDigit text) :
    parts.IsAscii ↔ (parts.month.isSome = true → (groupValue? parts.month).isSome = true) ∧
      (parts.day.isSome = true → (groupValue? parts.day).isSome = true) := by
  cases form with
  | year isYear => simp [IsAscii]
  | month isYear isMonth => simp [IsAscii, groupValue?_isSome_iff isMonth]
  | day isYear isMonth isDay =>
      simp [IsAscii, groupValue?_isSome_iff isMonth, groupValue?_isSome_iff isDay]
  | moment isYear isMonth isDay isMark isTime =>
      simp [IsAscii, groupValue?_isSome_iff isMonth, groupValue?_isSome_iff isDay]

/-- A date with a day has a month. -/
theorem DateParts.Form.month_isSome {parts : DateParts} {text : List Char}
    (form : parts.Form isDecimalDigit text) (hasDay : parts.day.isSome = true) :
    parts.month.isSome = true := by
  cases form with
  | year isYear => cases hasDay
  | month isYear isMonth => rfl
  | day isYear isMonth isDay => rfl
  | moment isYear isMonth isDay isMark isTime => rfl

/-- Whether a period is as precise as a text: within a month if the text goes on behind the year,
and a single day if it goes on behind the month. -/
structure Period.IsAsPrecise (period : Period) (text : List Char) : Prop where
  month : GoesOnBehindYear text → period.IsWithinMonth
  day : GoesOnBehindMonth text → period.isSingleDay = true

end Calendar

open Calendar Text

/-- **Periods are as precise as their texts exactly if the digits of months and days are ASCII.** A
text that is read as a period has the form of a partial date in digits of any script. Its period
lies within a month if the text goes on behind the year, and is a single day if the text goes on
behind the month, exactly if the month and the day of the text have ASCII digits only. -/
theorem readPeriod_isAsPrecise_iff {text : String} {period : Period}
    (read : readPeriod text = .ok period) :
    ∃ parts : DateParts, parts.Form isDecimalDigit (trimBlanks text.toList) ∧
      (period.IsAsPrecise (trimBlanks text.toList) ↔ parts.IsAscii) := by
  obtain ⟨parts, form, isPeriod⟩ := readPeriod_eq_ok_iff.1 read
  refine ⟨parts, form, ?_⟩
  rw [form.isAscii_iff]
  constructor
  · intro precise
    constructor
    · intro hasMonth
      exact (DateParts.isWithinMonth_iff isPeriod).1
        (precise.month (form.goesOnBehindYear_iff.2 hasMonth))
    · intro hasDay
      exact ((DateParts.isSingleDay_iff isPeriod).1
        (precise.day (form.goesOnBehindMonth_iff.2 hasDay))).2
  · rintro ⟨monthValue, dayValue⟩
    constructor
    · intro goesOn
      exact (DateParts.isWithinMonth_iff isPeriod).2
        (monthValue (form.goesOnBehindYear_iff.1 goesOn))
    · intro goesOn
      have hasDay := form.goesOnBehindMonth_iff.1 goesOn
      exact (DateParts.isSingleDay_iff isPeriod).2
        ⟨monthValue (form.month_isSome hasDay), dayValue hasDay⟩

namespace Observations

/-- A moment with an hour in full-width digits, which no period depends on. -/
def leapDayMoment : String :=
  " 2012-2-29T１０:05Z "

theorem readPeriod_isAsPrecise_iff_leapDay :
    ∃ period, readPeriod leapDayMoment = .ok period ∧
      period.IsAsPrecise (trimBlanks leapDayMoment.toList) := by
  have read : readPeriod leapDayMoment =
      .ok ⟨⟨2012, 2, 29, by decide⟩, ⟨2012, 2, 29, by decide⟩⟩ := by rfl
  obtain ⟨parts, form, precise⟩ := readPeriod_isAsPrecise_iff read
  have groups : DateParts.read? (trimBlanks leapDayMoment.toList) =
      some ⟨"2012".toList, some "2".toList, some "29".toList, some "１０".toList, some "05".toList,
        none⟩ := by decide
  obtain rfl := Option.some.inj (groups.symm.trans (read?_eq_some_iff.2 form))
  refine ⟨_, read, precise.2 ⟨?_, ?_⟩⟩
  · rintro _ ⟨⟩
    exact List.all_eq_true.1 (by decide)
  · rintro _ ⟨⟩
    exact List.all_eq_true.1 (by decide)

/-- A month in full-width digits is left out: the period is the whole year. -/
theorem month_left_out :
    readPeriod "2020-１" = .ok (.year 2020) ∧ GoesOnBehindYear (trimBlanks "2020-１".toList) ∧
      ¬ (Period.year 2020).IsWithinMonth := by
  have isYear : IsGroup isDecimalDigit 4 4 "2020".toList :=
    ⟨List.all_eq_true.1 (by decide), by decide, by decide⟩
  refine ⟨rfl, ⟨"2020".toList, "-１".toList, isYear, by decide, by decide⟩, ?_⟩
  rintro ⟨-, sameMonth⟩
  exact absurd sameMonth (by decide)

end Observations

end FacetedSearch
