import FacetedSearch.Filter.Selection
import FacetedSearch.Proofs.Calendar.Days
import FacetedSearch.Proofs.Calendar.Forms
import FacetedSearch.Proofs.Query.Shapes
import FacetedSearch.Proofs.Text.Trimming

/-!
Contract: which days a partial date covers.

Owns:
- `Period.Contains`, the days of a period, and `contains_year_iff`, `contains_month_iff` and
  `contains_day_iff`;
- `DateParts.IsValid` and `DateParts.Names`, what the digit groups of a partial date have to satisfy
  and which days they name;
- `readPeriod_covers`: a text of ASCII characters is read exactly if it has the form of a partial
  date with valid numbers, and then as the days with the numbers that it states.

Does not own: digits of other scripts, which fit the form and have no value.
-/

namespace FacetedSearch

namespace Calendar

open Text

/-! ## Days of periods -/

/-- Whether a day lies between the first and the last day of a period. -/
def Period.Contains (period : Period) (date : Date) : Prop :=
  ¬ date.Before period.first ∧ ¬ period.last.Before date

theorem contains_year_iff {year : Nat} {date : Date} :
    (Period.year year).Contains date ↔ date.year = year := by
  obtain ⟨leastMonth, mostMonth, leastDay, mostDay⟩ := date.isDay
  have december : daysInMonth year 12 = 31 := rfl
  simp only [Period.Contains, Period.year, Date.firstOfMonth, Date.lastOfYear, Date.lastOfMonth,
    Date.Before, december]
  constructor
  · omega
  · rintro rfl
    have inDecember : date.month = 12 → date.day ≤ 31 := fun isDecember => by
      rw [isDecember] at mostDay
      exact mostDay
    omega

theorem contains_month_iff {year month : Nat} (isMonth : 1 ≤ month ∧ month ≤ 12) {date : Date} :
    (Period.wholeMonth year month isMonth).Contains date ↔
      date.year = year ∧ date.month = month := by
  obtain ⟨leastMonth, mostMonth, leastDay, mostDay⟩ := date.isDay
  simp only [Period.Contains, Period.wholeMonth, Date.firstOfMonth, Date.lastOfMonth, Date.Before]
  constructor
  · omega
  · rintro ⟨rfl, rfl⟩
    omega

theorem contains_day_iff {day date : Date} : Period.Contains ⟨day, day⟩ date ↔ date = day := by
  constructor
  · rintro ⟨notBefore, notAfter⟩
    exact Date.eq_of_not_before notBefore notAfter
  · rintro rfl
    simp only [Period.Contains, Date.Before]
    omega

theorem of?_eq_some_iff {year month day : Nat} {date : Date} :
    Date.of? year month day = some date ↔
      date.year = year ∧ date.month = month ∧ date.day = day := by
  unfold Date.of?
  split
  · rename_i isDay
    rw [Option.some.injEq]
    constructor
    · rintro rfl
      exact ⟨rfl, rfl, rfl⟩
    · rintro ⟨rfl, rfl, rfl⟩
      rfl
  · rename_i noDay
    constructor
    · intro none
      cases none
    · rintro ⟨rfl, rfl, rfl⟩
      exact absurd date.isDay noDay

/-! ## Numbers of digit groups -/

/-- The number that a group of ASCII digits stands for. -/
def number (group : List Char) : Nat :=
  Nat.ofDigitChars 10 group 0

theorem IsGroup.readDigits? {least most : Nat} {group : List Char}
    (isGroup : IsGroup Char.isDigit (least + 1) most group) :
    Numeral.readDigits? group = some (number group) := by
  refine AreDigits.readDigits? ⟨?_, isGroup.digits⟩
  exact List.ne_nil_of_length_pos (Nat.lt_of_lt_of_le (Nat.succ_pos least) isGroup.atLeast)

theorem IsGroup.groupValue? {least most : Nat} {group : List Char}
    (isGroup : IsGroup Char.isDigit (least + 1) most group) :
    groupValue? (some group) = some (number group) :=
  isGroup.readDigits?

namespace DateParts

/-- Whether the digit groups name a month, a day and a time of day that exist, as far as there are
groups for them. -/
structure IsValid (parts : DateParts) : Prop where
  month : ∀ month ∈ parts.month, 1 ≤ number month ∧ number month ≤ 12
  day : ∀ month ∈ parts.month, ∀ day ∈ parts.day,
    IsDay (number parts.year) (number month) (number day)
  hour : ∀ hour ∈ parts.hour, number hour < 24
  minute : ∀ minute ∈ parts.minute, number minute < 60
  second : ∀ second ∈ parts.second, number second < 60

/-- Whether a day has the year of the digit groups, and their month and day as far as there are
groups for them. -/
def Names (parts : DateParts) (date : Date) : Prop :=
  date.year = number parts.year ∧ (∀ month ∈ parts.month, date.month = number month) ∧
    ∀ day ∈ parts.day, date.day = number day

/-! ## Periods of digit groups -/

variable {parts : DateParts} {year month day : Nat} {period : Period}

theorem period?_of_year (isYear : Numeral.readDigits? parts.year = some year)
    (noMonth : groupValue? parts.month = none) : parts.period? = some (.year year) := by
  simp only [period?, isYear, noMonth]

theorem period?_of_month (isYear : Numeral.readDigits? parts.year = some year)
    (isMonth : groupValue? parts.month = some month) (noDay : groupValue? parts.day = none) :
    parts.period? = some period ↔
      ∃ isMonth : 1 ≤ month ∧ month ≤ 12, period = .wholeMonth year month isMonth := by
  simp only [period?, isYear, isMonth, noDay, month?_eq_some]
  split
  · rename_i inYear
    simp [inYear, eq_comm]
  · rename_i notInYear
    simp [notInYear]

theorem period?_of_day (isYear : Numeral.readDigits? parts.year = some year)
    (isMonth : groupValue? parts.month = some month) (isDay : groupValue? parts.day = some day) :
    parts.period? = some period ↔
      parts.hasValidTime = true ∧
        ∃ date, Date.of? year month day = some date ∧ period = ⟨date, date⟩ := by
  simp only [period?, isYear, isMonth, isDay]
  split
  · cases found : Date.of? year month day with
    | none => simp
    | some date =>
        dsimp only
        split
        · rename_i valid
          simp [valid, eq_comm]
        · rename_i invalid
          simp [invalid]
  · rename_i noMonth
    constructor
    · intro none
      cases none
    · rintro ⟨-, date, found, -⟩
      obtain ⟨-, rfl, -⟩ := of?_eq_some_iff.1 found
      exact absurd ⟨date.isDay.1, date.isDay.2.1⟩ noMonth

theorem hasValidTime_iff {hour minute : Nat} (isHour : groupValue? parts.hour = some hour)
    (isMinute : groupValue? parts.minute = some minute) :
    parts.hasValidTime = true ↔
      hour < 24 ∧ minute < 60 ∧ ∀ second ∈ groupValue? parts.second, second < 60 := by
  unfold hasValidTime
  rw [isHour, isMinute]
  dsimp only
  rw [Bool.and_eq_true, Bool.and_eq_true, decide_eq_true_eq, decide_eq_true_eq, decide_eq_true_eq,
    and_assoc]
  cases groupValue? parts.second <;> simp

/-- Whether digit groups are read exactly if they are valid, and then as the days that they name. -/
def ReadAsNamed (parts : DateParts) : Prop :=
  ((∃ period, parts.period? = some period) ↔ parts.IsValid) ∧
    ∀ period, parts.period? = some period → ∀ date, period.Contains date ↔ parts.Names date

theorem readAsNamed_year {year : List Char} (isYear : IsGroup Char.isDigit 4 4 year) :
    ReadAsNamed ⟨year, none, none, none, none, none⟩ := by
  have read : period? ⟨year, none, none, none, none, none⟩ = some (.year (number year)) :=
    period?_of_year isYear.readDigits? rfl
  constructor
  · refine iff_of_true ⟨_, read⟩ ⟨?_, ?_, ?_, ?_, ?_⟩ <;> simp
  · intro period found date
    cases read.symm.trans found
    simp [contains_year_iff, Names]

theorem readAsNamed_month {year month : List Char} (isYear : IsGroup Char.isDigit 4 4 year)
    (isMonth : IsGroup Char.isDigit 1 2 month) :
    ReadAsNamed ⟨year, some month, none, none, none, none⟩ := by
  have read {period : Period} : period? ⟨year, some month, none, none, none, none⟩ = some period ↔
      ∃ inYear, period = .wholeMonth (number year) (number month) inYear :=
    period?_of_month isYear.readDigits? isMonth.readDigits? rfl
  constructor
  · constructor
    · rintro ⟨period, found⟩
      obtain ⟨inYear, -⟩ := read.1 found
      refine ⟨?_, ?_, ?_, ?_, ?_⟩ <;> simp [inYear]
    · intro valid
      exact ⟨_, read.2 ⟨valid.month month rfl, rfl⟩⟩
  · intro period found date
    obtain ⟨inYear, rfl⟩ := read.1 found
    simp [contains_month_iff, Names]

theorem readAsNamed_day {month day : List Char}
    (isYear : Numeral.readDigits? parts.year = some (number parts.year))
    (hasMonth : parts.month = some month) (hasDay : parts.day = some day)
    (isMonth : IsGroup Char.isDigit 1 2 month) (isDay : IsGroup Char.isDigit 1 2 day)
    (time : parts.hasValidTime = true ↔
      (∀ hour ∈ parts.hour, number hour < 24) ∧ (∀ minute ∈ parts.minute, number minute < 60) ∧
        ∀ second ∈ parts.second, number second < 60) :
    parts.ReadAsNamed := by
  have monthValue : groupValue? parts.month = some (number month) := by
    rw [hasMonth]
    exact isMonth.groupValue?
  have dayValue : groupValue? parts.day = some (number day) := by
    rw [hasDay]
    exact isDay.groupValue?
  have read (period : Period) : parts.period? = some period ↔ _ :=
    period?_of_day isYear monthValue dayValue
  constructor
  · constructor
    · rintro ⟨period, found⟩
      obtain ⟨validTime, date, isDate, -⟩ := (read period).1 found
      obtain ⟨sameYear, sameMonth, sameDay⟩ := of?_eq_some_iff.1 isDate
      have isDay := date.isDay
      rw [sameYear, sameMonth, sameDay] at isDay
      obtain ⟨hour, minute, second⟩ := time.1 validTime
      refine ⟨?_, ?_, hour, minute, second⟩
      · simpa [hasMonth] using ⟨isDay.1, isDay.2.1⟩
      · simpa [hasMonth, hasDay] using isDay
    · intro valid
      have isDay := valid.day month hasMonth day hasDay
      exact ⟨_, (read _).2 ⟨time.2 ⟨valid.hour, valid.minute, valid.second⟩,
        ⟨_, _, _, isDay⟩, dif_pos isDay, rfl⟩⟩
  · intro period found date
    obtain ⟨-, day, isDate, rfl⟩ := (read period).1 found
    obtain ⟨sameYear, sameMonth, sameDay⟩ := of?_eq_some_iff.1 isDate
    rw [contains_day_iff, ← Option.some.injEq, ← isDate, eq_comm, of?_eq_some_iff]
    simp [Names, hasMonth, hasDay]

theorem readAsNamed_of_form {text : List Char} (form : parts.Form Char.isDigit text) :
    parts.ReadAsNamed := by
  cases form with
  | year isYear => exact readAsNamed_year isYear
  | month isYear isMonth => exact readAsNamed_month isYear isMonth
  | day isYear isMonth isDay =>
      refine readAsNamed_day isYear.readDigits? rfl rfl isMonth isDay ?_
      exact iff_of_true rfl (by simp)
  | moment isYear isMonth isDay isMark isTime =>
      refine readAsNamed_day isYear.readDigits? rfl rfl isMonth isDay ?_
      cases isTime with
      | minutes isHour isMinute isOffset =>
          refine (hasValidTime_iff isHour.groupValue? isMinute.groupValue?).trans ?_
          simp [groupValue?]
      | seconds isHour isMinute isSecond isFraction isOffset =>
          refine (hasValidTime_iff isHour.groupValue? isMinute.groupValue?).trans ?_
          simp [isSecond.groupValue?]

end DateParts

end Calendar

/-! ## Partial dates -/

open Calendar Text

/-- A period is that of the digit groups of a text, whatever script the digits belong to. -/
theorem readPeriod_eq_ok_iff {text : String} {period : Period} :
    readPeriod text = .ok period ↔
      ∃ parts : DateParts, parts.Form isDecimalDigit (trimBlanks text.toList) ∧
        parts.period? = some period := by
  simp only [readPeriod, orMalformed_eq_ok_iff, readPeriod?, Option.bind_eq_some_iff,
    read?_eq_some_iff]

/-- **Partial dates cover exactly the days that they name.** A text of ASCII characters is read
exactly if, apart from blanks around it, it has the form of a partial date and states a month, a day
and a time of day that exist, as far as it states them. A day lies in the period that is read
exactly if it has the year of the text, and its month and its day as far as the text states
them. -/
theorem readPeriod_covers {text : String} (ascii : ∀ c ∈ text.toList, c.toNat < 128) :
    ((∃ period, readPeriod text = .ok period) ↔
      ∃ parts : DateParts, parts.Form Char.isDigit (trimBlanks text.toList) ∧ parts.IsValid) ∧
    ∀ period, readPeriod text = .ok period →
      ∀ parts : DateParts, parts.Form Char.isDigit (trimBlanks text.toList) →
        ∀ date, period.Contains date ↔ parts.Names date := by
  have sameForm (parts : DateParts) : parts.Form isDecimalDigit (trimBlanks text.toList) ↔
      parts.Form Char.isDigit (trimBlanks text.toList) := by
    constructor
    · intro form
      exact form.mono fun c member isDecimal =>
        isDigit_of_isDecimalDigit (ascii c (mem_of_mem_trimBlanks member)) isDecimal
    · intro form
      exact form.mono fun c _ => isDecimalDigit_of_isDigit
  constructor
  · simp only [readPeriod_eq_ok_iff, sameForm]
    constructor
    · rintro ⟨period, parts, form, isPeriod⟩
      have readAsNamed := DateParts.readAsNamed_of_form form
      exact ⟨parts, form, readAsNamed.1.1 ⟨period, isPeriod⟩⟩
    · rintro ⟨parts, form, valid⟩
      have readAsNamed := DateParts.readAsNamed_of_form form
      obtain ⟨period, isPeriod⟩ := readAsNamed.1.2 valid
      exact ⟨period, parts, form, isPeriod⟩
  · intro period read parts form
    obtain ⟨others, otherForm, isPeriod⟩ := readPeriod_eq_ok_iff.1 read
    have groups := read?_eq_some_iff.2 otherForm
    rw [read?_eq_some_iff.2 ((sameForm parts).2 form), Option.some.injEq] at groups
    rw [← groups] at isPeriod
    exact (DateParts.readAsNamed_of_form form).2 period isPeriod

namespace Observations

/-- The last February of a century that is a leap year, with a blank in front. -/
theorem readPeriod_covers_leap_february :
    ∃ period, readPeriod " 2000-2" = .ok period ∧
      ∀ date, period.Contains date ↔ date.year = 2000 ∧ date.month = 2 := by
  have ascii : ∀ c ∈ " 2000-2".toList, c.toNat < 128 := forall_mem_of_all (by decide)
  have covers := readPeriod_covers ascii
  have isGroup {least most : Nat} {group : List Char} (digits : group.all Char.isDigit = true)
      (fits : least ≤ group.length ∧ group.length ≤ most) :
      IsGroup Char.isDigit least most group := ⟨List.all_eq_true.1 digits, fits.1, fits.2⟩
  have form : DateParts.Form Char.isDigit ⟨"2000".toList, some "2".toList, none, none, none, none⟩
      (trimBlanks " 2000-2".toList) :=
    .month (isGroup (by decide) (by decide)) (isGroup (by decide) (by decide))
  have isYear : number "2000".toList = 2000 := by decide
  have isMonth : number "2".toList = 2 := by decide
  have valid : DateParts.IsValid ⟨"2000".toList, some "2".toList, none, none, none, none⟩ := by
    refine ⟨?_, by simp, by simp, by simp, by simp⟩
    rintro _ ⟨⟩
    rw [isMonth]
    decide
  obtain ⟨period, read⟩ := covers.1.2 ⟨_, form, valid⟩
  refine ⟨period, read, fun date => (covers.2 period read _ form date).trans ?_⟩
  simp only [DateParts.Names, isYear, isMonth, Option.mem_def, Option.some.injEq, forall_eq']
  simp

end Observations

end FacetedSearch
