import FacetedSearch.Proofs.Calendar.Coverage
import FacetedSearch.Proofs.Filter.Bounds

/-!
Contract: ranges between partial dates under the usual settings.

Owns:
- `RangeSyntax.reads_between_iff`: the only way to read two texts around a separator, if they have
  none;
- `IsDateBound`, what an end of a range states, and `readCondition_between_eq_ok_iff`: two texts are
  read as a range exactly if both state a bound;
- `Condition.Admits`, the days that a condition selects;
- `date_ranges_are_symmetric`: both ends are read alike, and agree with dates that stand alone.

Does not own: other separators and wildcards.
-/

namespace FacetedSearch

open Calendar Text

/-! ## Two texts around a separator -/

namespace RangeSyntax

variable {rangeSyntax : RangeSyntax} {mark : Char} {left right : String}

/-- Two texts around a separator that neither of them has are read as a range in at most one way:
as what is left of them without the blanks around. -/
theorem reads_between_iff (wildcardEnds : NoBlankEnds rangeSyntax.wildcard.toList)
    (inside : mark ∈ rangeSyntax.separator.toList) (notLeft : mark ∉ left.toList)
    (notRight : mark ∉ right.toList) {lower upper : List Char} :
    rangeSyntax.Reads (left ++ rangeSyntax.separator ++ right).toList lower upper ↔
      Pattern.Matches rangeSyntax.bound lower ∧ Pattern.Matches rangeSyntax.bound upper ∧
        lower = trimBlanks left.toList ∧ upper = trimBlanks right.toList := by
  have boundEnds := endsVisibly_bound wildcardEnds
  rw [String.toList_append, String.toList_append]
  constructor
  · rintro ⟨first, second, third, fourth, firstBlank, secondBlank, thirdBlank, fourthBlank,
      isLower, isUpper, split⟩
    obtain ⟨isLeft, isRight⟩ := eq_of_append_eq inside notLeft notRight split
    refine ⟨isLower, isUpper, ?_, ?_⟩
    · rw [isLeft, trimBlanks_around firstBlank secondBlank (boundEnds lower isLower)]
    · rw [isRight, trimBlanks_around thirdBlank fourthBlank (boundEnds upper isUpper)]
  · rintro ⟨isLower, isUpper, rfl, rfl⟩
    obtain ⟨first, second, firstBlank, secondBlank, isLeft⟩ := exists_trimBlanks left.toList
    obtain ⟨third, fourth, thirdBlank, fourthBlank, isRight⟩ := exists_trimBlanks right.toList
    refine ⟨first, second, third, fourth, firstBlank, secondBlank, thirdBlank, fourthBlank,
      isLower, isUpper, ?_⟩
    rw [← isLeft, ← isRight]

theorem split?_between (wildcardEnds : NoBlankEnds rangeSyntax.wildcard.toList)
    (inside : mark ∈ rangeSyntax.separator.toList) (notLeft : mark ∉ left.toList)
    (notRight : mark ∉ right.toList)
    (isLower : Pattern.Matches rangeSyntax.bound (trimBlanks left.toList))
    (isUpper : Pattern.Matches rangeSyntax.bound (trimBlanks right.toList)) :
    rangeSyntax.split? (left ++ rangeSyntax.separator ++ right) = some (trim left, trim right) := by
  have readsIff {lower upper : List Char} :
      rangeSyntax.Reads (left ++ rangeSyntax.separator ++ right).toList lower upper ↔ _ :=
    reads_between_iff wildcardEnds inside notLeft notRight
  apply split?_eq_some
  · rw [trim, trim, String.toList_ofList, String.toList_ofList]
    exact readsIff.2 ⟨isLower, isUpper, rfl, rfl⟩
  · intro lower upper reads
    rw [trim, trim, String.toList_ofList, String.toList_ofList]
    exact (readsIff.1 reads).2.2

/-- A text that is read as a range has the separator. -/
theorem Reads.separator_mem {raw lower upper : List Char}
    (reads : rangeSyntax.Reads raw lower upper) (inside : mark ∈ rangeSyntax.separator.toList) :
    mark ∈ raw := by
  obtain ⟨first, second, third, fourth, -, -, -, -, -, -, rfl⟩ := reads
  simp [inside]

end RangeSyntax

theorem FilterSyntax.readRange_eq_ok_iff {filterSyntax : FilterSyntax} {type : ValueType}
    (supported : type.supportsRanges = true) {raw lower upper : String} {condition : Condition} :
    filterSyntax.readRange type raw lower upper = .ok condition ↔
      ∃ first last, filterSyntax.readBound type Period.first lower = .ok first ∧
        filterSyntax.readBound type Period.last upper = .ok last ∧
        condition = .between first last := by
  rw [readRange, if_pos supported]
  cases filterSyntax.readBound type Period.first lower with
  | error error => simp
  | ok first =>
      constructor
      · intro read
        obtain ⟨last, isLast, rfl⟩ := map_eq_ok_iff.1 read
        exact ⟨first, last, rfl, isLast, rfl⟩
      · rintro ⟨_, last, isFirst, isLast, rfl⟩
        cases isFirst
        exact map_eq_ok_iff.2 ⟨last, isLast, rfl⟩

/-! ## Partial dates around a separator -/

/-- How raw values are written unless settings say otherwise. -/
def usualSyntax : FilterSyntax :=
  Settings.filterSyntax {}

/-- What an end of a range of dates states: the wildcard no bound, a partial date one of its
days. -/
inductive IsDateBound (day : Period → Date) (text : String) : Option TypedValue → Prop where
  | unbounded (isWildcard : trim text = usualSyntax.range.wildcard) : IsDateBound day text none
  | dated {period : Period} (read : readPeriod (trim text) = .ok period) :
      IsDateBound day text (some (.date (day period)))

theorem readPeriod_trim_iff {text : String} {period : Period} :
    readPeriod (trim text) = .ok period ↔ readPeriod text = .ok period := by
  rw [readPeriod_eq_ok_iff, readPeriod_eq_ok_iff, trim, String.toList_ofList,
    (noBlankEnds_trimBlanks text.toList).trimBlanks]

/-- A text that is read as a partial date has none but the characters of dates and blanks. -/
theorem characters_of_readPeriod {text : String} {period : Period}
    (read : readPeriod text = .ok period) :
    ∀ c ∈ text.toList, isBlank c = true ∨ IsDateCharacter isDecimalDigit c := by
  obtain ⟨parts, form, -⟩ := readPeriod_eq_ok_iff.1 read
  obtain ⟨front, back, frontBlank, backBlank, split⟩ := exists_trimBlanks text.toList
  intro c member
  rw [split, List.mem_append, List.mem_append] at member
  rcases member with (inFront | inside) | inBack
  · exact .inl (frontBlank c inFront)
  · exact .inr (form.characters c inside)
  · exact .inl (backBlank c inBack)

theorem comma_not_mem_of_readPeriod {text : String} {period : Period}
    (read : readPeriod text = .ok period) : ',' ∉ text.toList := by
  intro member
  have character := characters_of_readPeriod read ',' member
  revert character
  unfold IsDateCharacter
  decide

namespace IsDateBound

variable {day : Period → Date} {text : String} {bound : Option TypedValue}

theorem matches_bound (isBound : IsDateBound day text bound) :
    Pattern.Matches usualSyntax.range.bound (trimBlanks text.toList) := by
  cases isBound with
  | unbounded isWildcard =>
      have characters := congrArg String.toList isWildcard
      rw [trim, String.toList_ofList] at characters
      exact .preferred (Pattern.matches_literal_iff.2 characters)
  | dated read =>
      obtain ⟨parts, form, -⟩ := readPeriod_eq_ok_iff.1 (readPeriod_trim_iff.1 read)
      exact matches_bound_of_form form usualSyntax.range

theorem readBound_eq_ok_iff :
    usualSyntax.readBound .date day (trim text) = .ok bound ↔ IsDateBound day text bound := by
  unfold FilterSyntax.readBound
  split
  · rename_i isWildcard
    constructor
    · rintro ⟨⟩
      exact .unbounded isWildcard
    · intro isBound
      cases isBound with
      | unbounded => rfl
      | dated read =>
          rw [isWildcard] at read
          cases read
  · rename_i notWildcard
    constructor
    · intro read
      obtain ⟨period, isPeriod, rfl⟩ := map_eq_ok_iff.1 read
      exact .dated isPeriod
    · intro isBound
      cases isBound with
      | unbounded isWildcard => exact absurd isWildcard notWildcard
      | dated read => exact map_eq_ok_iff.2 ⟨_, read, rfl⟩

end IsDateBound

section Between

variable {left right : String}

theorem wildcardEnds_usualSyntax : NoBlankEnds usualSyntax.range.wildcard.toList :=
  .of_forall (forall_mem_of_all (by decide))

theorem comma_mem_separator : ',' ∈ usualSyntax.range.separator.toList := by
  decide

/-- Two texts around a comma are read as a range exactly if both of them state a bound. -/
theorem readCondition_between_eq_ok_iff (noLeftComma : ',' ∉ left.toList)
    (noRightComma : ',' ∉ right.toList) {condition : Condition} :
    usualSyntax.readCondition .date (left ++ "," ++ right) = .ok condition ↔
      ∃ lower upper, IsDateBound Period.first left lower ∧ IsDateBound Period.last right upper ∧
        condition = .between lower upper := by
  have commaInside := comma_mem_separator
  unfold FilterSyntax.readCondition
  cases cut : usualSyntax.range.split? (left ++ "," ++ right) with
  | none =>
      constructor
      · intro read
        obtain ⟨period, isPeriod, -⟩ := map_eq_ok_iff.1 read
        exact absurd (by simp) (comma_not_mem_of_readPeriod isPeriod)
      · rintro ⟨lower, upper, isLower, isUpper, -⟩
        have bounds := RangeSyntax.split?_between wildcardEnds_usualSyntax commaInside noLeftComma
          noRightComma isLower.matches_bound isUpper.matches_bound
        cases cut.symm.trans bounds
  | some bounds =>
      have reads := RangeSyntax.reads_of_split?_eq_some cut
      obtain ⟨-, -, isLeft, isRight⟩ := (RangeSyntax.reads_between_iff wildcardEnds_usualSyntax
        commaInside noLeftComma noRightComma).1 reads
      have isLower : bounds.1 = trim left := String.toList_injective (by simp [trim, isLeft])
      have isUpper : bounds.2 = trim right := String.toList_injective (by simp [trim, isRight])
      dsimp only
      rw [FilterSyntax.readRange_eq_ok_iff rfl, isLower, isUpper]
      simp only [IsDateBound.readBound_eq_ok_iff]

end Between

/-- A partial date without a range around it selects its period. -/
theorem readCondition_of_readPeriod {text : String} {period : Period}
    (read : readPeriod text = .ok period) :
    usualSyntax.readCondition .date text = .ok (FilterSyntax.periodCondition period) := by
  have noRange : usualSyntax.range.split? text = none := by
    rw [RangeSyntax.split?_eq_none_iff]
    intro lower upper reads
    exact comma_not_mem_of_readPeriod read (reads.separator_mem comma_mem_separator)
  rw [FilterSyntax.readCondition, noRange]
  exact map_eq_ok_iff.2 ⟨period, read, rfl⟩

/-! ## Days of conditions -/

/-- Whether a bound of a range, if there is one, is a day for which something holds. -/
def BoundHolds (holds : Date → Prop) (bound : Option TypedValue) : Prop :=
  ∀ value ∈ bound, ∃ day, value = .date day ∧ holds day

/-- Whether a condition on dates selects a day. -/
def Condition.Admits (date : Date) : Condition → Prop
  | .equals value => value = .date date
  | .between lower upper =>
      BoundHolds (fun first => ¬ date.Before first) lower ∧
        BoundHolds (fun last => ¬ last.Before date) upper
  | .inside _ => False

theorem admits_between_iff {period : Period} {date : Date} :
    (Condition.between (some (.date period.first)) (some (.date period.last))).Admits date ↔
      period.Contains date := by
  simp [Condition.Admits, BoundHolds, Period.Contains]

theorem admits_periodCondition_iff {period : Period} {date : Date} :
    (FilterSyntax.periodCondition period).Admits date ↔ period.Contains date := by
  unfold FilterSyntax.periodCondition
  split
  · rename_i isSingleDay
    obtain ⟨first, last⟩ := period
    obtain rfl : first = last := eq_of_beq isSingleDay
    rw [contains_day_iff, Condition.Admits, TypedValue.date.injEq, eq_comm]
  · exact admits_between_iff

/-- **Both ends of a range of dates are read alike, and agree with dates that stand alone.** Around
a comma, two texts without one are read exactly if each of them, blanks around it ignored, is the
wildcard or a partial date; the range then starts with the first day of the first date and ends with
the last day of the second one, and is open where the wildcard stands. A partial date alone selects
the days that the range from it to itself selects. -/
theorem date_ranges_are_symmetric {left right : String} (noLeftComma : ',' ∉ left.toList)
    (noRightComma : ',' ∉ right.toList) :
    (∀ condition, usualSyntax.readCondition .date (left ++ "," ++ right) = .ok condition ↔
      ∃ lower upper, IsDateBound Period.first left lower ∧ IsDateBound Period.last right upper ∧
        condition = .between lower upper) ∧
    ∀ text period, readPeriod text = .ok period →
      ∃ alone range, usualSyntax.readCondition .date text = .ok alone ∧
        usualSyntax.readCondition .date (text ++ "," ++ text) = .ok range ∧
        ∀ date, alone.Admits date ↔ range.Admits date := by
  constructor
  · intro condition
    exact readCondition_between_eq_ok_iff noLeftComma noRightComma
  · intro text period read
    have noComma := comma_not_mem_of_readPeriod read
    have trimmed := readPeriod_trim_iff.2 read
    refine ⟨_, _, readCondition_of_readPeriod read,
      (readCondition_between_eq_ok_iff noComma noComma).2
        ⟨_, _, .dated trimmed, .dated trimmed, rfl⟩, fun date => ?_⟩
    rw [admits_periodCondition_iff, admits_between_iff]

namespace Observations

/-- The range from a month on, with blanks around its bounds. -/
theorem date_ranges_are_symmetric_open :
    usualSyntax.readCondition .date " 2012-2 , *" =
        .ok (.between (some (.date ⟨2012, 2, 1, by decide⟩)) none) ∧
      ∀ condition, usualSyntax.readCondition .date "*,soon" ≠ .ok condition := by
  have openEnd := date_ranges_are_symmetric
    (show ',' ∉ " 2012-2 ".toList by decide) (show ',' ∉ " *".toList by decide)
  have misspelt := date_ranges_are_symmetric
    (show ',' ∉ "*".toList by decide) (show ',' ∉ "soon".toList by decide)
  constructor
  · have read : readPeriod (trim " 2012-2 ") =
        .ok ⟨⟨2012, 2, 1, by decide⟩, ⟨2012, 2, 29, by decide⟩⟩ := by rfl
    exact (openEnd.1 _).2 ⟨_, _, .dated read, .unbounded rfl, rfl⟩
  · intro condition read
    obtain ⟨-, upper, -, isUpper, -⟩ := (misspelt.1 condition).1 read
    cases isUpper with
    | unbounded isWildcard => exact absurd isWildcard (by decide)
    | dated isPeriod => cases isPeriod

end Observations

end FacetedSearch
