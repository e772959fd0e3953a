import FacetedSearch.Filter.Selection
import FacetedSearch.Proofs.Outcome
import FacetedSearch.Proofs.Text.Characters
import FacetedSearch.Settings.Validation

/-!
Contract: ranges of integers in texts, for any separator, wildcard and mark of excluded values.

Owns:
- `RangeSyntax.Reads`, a way to read a text as a range, and `mem_splits_iff`: the ways that are
  tried are exactly these;
- `split?_eq_some`: a text with a single such way is cut in this way;
- `RangeSyntax.Apart`, a separator and a wildcard that cannot be taken for parts of each other or of
  a number, and `Apart.eq_of_reads`: a range that is written with them has a single way;
- `readSelection_endText_iff`: such a range is read as what it states exactly if its text does not
  begin with the mark of excluded values.

Accepted settings need not keep the separator, the wildcard and the mark apart.

Does not own: ranges of other types.
-/

namespace FacetedSearch

open Text

/-! ## Patterns -/

namespace Text.Pattern

theorem matches_one_iff {accepts : Char → Bool} {text : List Char} :
    Matches (.one accepts) text ↔ ∃ c, accepts c = true ∧ text = [c] := by
  constructor
  · rintro ⟨⟩
    rename_i c accepted
    exact ⟨c, accepted, rfl⟩
  · rintro ⟨c, accepted, rfl⟩
    exact .one accepted

theorem matches_sequence_iff {first second : Pattern} {text : List Char} :
    Matches (.sequence first second) text ↔
      ∃ left right, Matches first left ∧ Matches second right ∧ text = left ++ right := by
  constructor
  · rintro ⟨⟩
    rename_i left right leftMatches rightMatches
    exact ⟨left, right, leftMatches, rightMatches, rfl⟩
  · rintro ⟨left, right, leftMatches, rightMatches, rfl⟩
    exact .sequence leftMatches rightMatches

theorem matches_nothing_iff {text : List Char} : Matches .nothing text ↔ text = [] := by
  constructor
  · rintro ⟨⟩
    rfl
  · rintro rfl
    exact .nothing

theorem matches_many_iff {accepts : Char → Bool} {text : List Char} :
    Matches (.many accepts) text ↔ ∀ c ∈ text, accepts c = true := by
  constructor
  · rintro ⟨⟩
    assumption
  · exact .many

theorem matches_literal_iff {expected text : List Char} :
    Matches (.literal expected) text ↔ text = expected := by
  induction expected generalizing text with
  | nil => exact matches_nothing_iff
  | cons c expected inductionHypothesis =>
      rw [literal, matches_sequence_iff]
      simp only [char, matches_one_iff, inductionHypothesis, beq_iff_eq]
      constructor
      · rintro ⟨_, _, ⟨_, rfl, rfl⟩, rfl, rfl⟩
        rfl
      · rintro rfl
        exact ⟨[c], expected, ⟨c, rfl, rfl⟩, rfl, rfl⟩

end Text.Pattern

/-! ## Ways to read a range -/

/-- A text of blanks only. -/
def AllBlank (text : List Char) : Prop :=
  ∀ c ∈ text, isBlank c = true

namespace RangeSyntax

theorem matches_middle_iff {rangeSyntax : RangeSyntax} {text : List Char} :
    Pattern.Matches rangeSyntax.middle text ↔
      ∃ left right, AllBlank left ∧ AllBlank right ∧
        text = left ++ rangeSyntax.separator.toList ++ right := by
  simp only [middle, Pattern.inOrder, Pattern.blanks, Pattern.matches_sequence_iff,
    Pattern.matches_many_iff, Pattern.matches_literal_iff, Pattern.matches_nothing_iff]
  constructor
  · rintro ⟨left, _, leftBlank, ⟨_, _, rfl, ⟨right, _, rightBlank, rfl, rfl⟩, rfl⟩, rfl⟩
    exact ⟨left, right, leftBlank, rightBlank, by simp⟩
  · rintro ⟨left, right, leftBlank, rightBlank, rfl⟩
    exact ⟨left, _, leftBlank, ⟨_, _, rfl, ⟨right, [], rightBlank, rfl, rfl⟩, rfl⟩, by simp⟩

/-- A way to read a text as a range: two bounds and a separator, with blanks around each bound. -/
def Reads (rangeSyntax : RangeSyntax) (raw lower upper : List Char) : Prop :=
  ∃ first second third fourth,
    AllBlank first ∧ AllBlank second ∧ AllBlank third ∧ AllBlank fourth ∧
    Pattern.Matches rangeSyntax.bound lower ∧ Pattern.Matches rangeSyntax.bound upper ∧
    raw = (first ++ lower ++ second) ++ rangeSyntax.separator.toList ++ (third ++ upper ++ fourth)

theorem before_append (front rest : List Char) : before (front ++ rest) rest = front := by
  simp [before]

/-- The ways that are tried are exactly the ways to read a text. -/
theorem mem_splits_iff {rangeSyntax : RangeSyntax} {raw lower upper : List Char} :
    (lower, upper) ∈ rangeSyntax.splits raw ↔ rangeSyntax.Reads raw lower upper := by
  simp only [splits, List.mem_flatMap, List.mem_filterMap, Option.ite_none_right_eq_some,
    Option.some.injEq, Prod.mk.injEq]
  simp only [Pattern.mem_remainders, matches_middle_iff, List.contains_iff_mem, Pattern.blanks,
    Pattern.matches_many_iff]
  constructor
  · rintro ⟨_, ⟨first, firstBlank, rfl⟩, _, ⟨_, lowerMatches, rfl⟩,
      _, ⟨_, ⟨second, third, secondBlank, thirdBlank, rfl⟩, rfl⟩,
      _, ⟨_, upperMatches, rfl⟩, ⟨fourth, fourthBlank, rfl⟩, isLower, isUpper⟩
    rw [before_append] at isLower isUpper
    subst isLower isUpper
    exact ⟨first, second, third, fourth, firstBlank, secondBlank, thirdBlank, fourthBlank,
      lowerMatches, upperMatches, by simp⟩
  · rintro ⟨first, second, third, fourth, firstBlank, secondBlank, thirdBlank, fourthBlank,
      lowerMatches, upperMatches, rfl⟩
    refine ⟨lower ++ (second ++ rangeSyntax.separator.toList ++ third ++ (upper ++ fourth)),
      ⟨first, firstBlank, by simp⟩, _, ⟨lower, lowerMatches, rfl⟩, upper ++ fourth,
      ⟨_, ⟨second, third, secondBlank, thirdBlank, rfl⟩, rfl⟩, fourth,
      ⟨upper, upperMatches, rfl⟩, ⟨fourth, fourthBlank, by simp⟩, ?_, ?_⟩
    · exact before_append _ _
    · exact before_append _ _

theorem split?_eq_none_iff {rangeSyntax : RangeSyntax} {raw : String} :
    rangeSyntax.split? raw = none ↔
      ∀ lower upper, ¬ rangeSyntax.Reads raw.toList lower upper := by
  simp only [split?, Option.map_eq_none_iff, List.head?_eq_none_iff, List.eq_nil_iff_forall_not_mem,
    Prod.forall, mem_splits_iff]

theorem reads_of_split?_eq_some {rangeSyntax : RangeSyntax} {raw : String}
    {bounds : String × String} (cut : rangeSyntax.split? raw = some bounds) :
    rangeSyntax.Reads raw.toList bounds.1.toList bounds.2.toList := by
  obtain ⟨⟨lower, upper⟩, isFirst, rfl⟩ := Option.map_eq_some_iff.1 cut
  rw [String.toList_ofList, String.toList_ofList]
  exact mem_splits_iff.1 (List.mem_of_mem_head? isFirst)

/-- A text with a single way to read it is cut in this way. -/
theorem split?_eq_some {rangeSyntax : RangeSyntax} {raw lower upper : String}
    (reads : rangeSyntax.Reads raw.toList lower.toList upper.toList)
    (single : ∀ otherLower otherUpper, rangeSyntax.Reads raw.toList otherLower otherUpper →
      otherLower = lower.toList ∧ otherUpper = upper.toList) :
    rangeSyntax.split? raw = some (lower, upper) := by
  have member := mem_splits_iff.2 reads
  unfold split?
  cases found : rangeSyntax.splits raw.toList with
  | nil =>
      rw [found] at member
      cases member
  | cons bounds rest =>
      have isHead : (bounds.1, bounds.2) ∈ rangeSyntax.splits raw.toList := by
        rw [found]
        exact List.mem_cons_self
      obtain ⟨isLower, isUpper⟩ := single _ _ (mem_splits_iff.1 isHead)
      simp [isLower, isUpper]

end RangeSyntax

/-! ## Bounds -/

theorem matches_digits {text : List Char} (notEmpty : text ≠ [])
    (digits : ∀ c ∈ text, isDecimalDigit c = true) :
    Pattern.Matches (.oneOrMore isDecimalDigit) text := by
  obtain ⟨first, rest, rfl⟩ := List.exists_cons_of_ne_nil notEmpty
  exact .sequence (.one (digits first List.mem_cons_self))
    (.many fun c member => digits c (List.mem_cons_of_mem first member))

theorem matches_numberBound_of_digits {text : List Char} (notEmpty : text ≠ [])
    (digits : ∀ c ∈ text, isDecimalDigit c = true) : Pattern.Matches .numberBound text := by
  have skipped (pattern : Pattern) : Pattern.Matches (.optional pattern) [] := .other .nothing
  have number : Pattern.Matches .numberBound ([] ++ (text ++ ([] ++ ([] ++ [])))) :=
    .sequence (skipped _) (.sequence (matches_digits notEmpty digits)
      (.sequence (skipped _) (.sequence (skipped _) .nothing)))
  rw [List.nil_append, List.append_nil, List.append_nil, List.append_nil] at number
  exact number

theorem AreDigits.matches_bound {text : List Char} (digits : AreDigits text)
    (rangeSyntax : RangeSyntax) : Pattern.Matches rangeSyntax.bound text :=
  .other (.other (matches_numberBound_of_digits digits.notEmpty fun c member =>
    isDecimalDigit_of_isDigit (digits.each c member)))

/-! ## Texts with a single way to read them -/

/-- Two cuts of a text at the same inner text are one, if the inner text has a character that the
parts of the first cut do not have. -/
theorem eq_of_append_eq {mark : Char} {inner left right otherLeft otherRight : List Char}
    (inside : mark ∈ inner) (notLeft : mark ∉ left) (notRight : mark ∉ right)
    (same : left ++ inner ++ right = otherLeft ++ inner ++ otherRight) :
    left = otherLeft ∧ right = otherRight := by
  have counts := congrArg (List.count mark) same
  simp only [List.count_append, List.count_eq_zero_of_not_mem notLeft,
    List.count_eq_zero_of_not_mem notRight] at counts
  have notOtherLeft : mark ∉ otherLeft := List.count_eq_zero.1 (by omega)
  have fronts := congrArg (List.takeWhile (· != mark)) same
  have keeps {part : List Char} (notPart : mark ∉ part) : ∀ c ∈ part, (c != mark) = true :=
    fun c member => bne_iff_ne.2 fun isMark => notPart (isMark ▸ member)
  rw [List.append_assoc, List.append_assoc, List.takeWhile_append_of_pos (keeps notLeft),
    List.takeWhile_append_of_pos (keeps notOtherLeft)] at fronts
  -- What is taken of the inner text is the same on both sides only if the mark ends it there.
  have stops (rest : List Char) :
      (inner ++ rest).takeWhile (· != mark) = inner.takeWhile (· != mark) := by
    obtain ⟨before, after, rfl⟩ := List.append_of_mem inside
    simp [List.takeWhile_append]
  rw [stops, stops] at fronts
  have sameLeft := List.append_cancel_right fronts
  subst sameLeft
  rw [List.append_assoc, List.append_assoc] at same
  exact ⟨rfl, List.append_cancel_left (List.append_cancel_left same)⟩

theorem NoBlankEnds.eq_inner {front inner back : List Char}
    (ends : NoBlankEnds (front ++ inner ++ back)) (frontBlank : AllBlank front)
    (backBlank : AllBlank back) : front ++ inner ++ back = inner := by
  have noFront : front = [] := by
    cases front with
    | nil => rfl
    | cons c rest =>
        have notBlank := ends.first c (by simp)
        rw [frontBlank c List.mem_cons_self] at notBlank
        cases notBlank
  have noBack : back = [] := by
    rcases List.eq_nil_or_concat back with isNil | ⟨rest, c, isConcat⟩
    · exact isNil
    · subst isConcat
      have notBlank := ends.last c (by simp)
      rw [backBlank c (by simp)] at notBlank
      cases notBlank
  rw [noFront, noBack, List.nil_append, List.append_nil]

namespace RangeSyntax

/-- A separator with a character that no number and not the wildcard has, and a wildcard without
blanks at its ends. -/
structure Apart (rangeSyntax : RangeSyntax) : Prop where
  marked : ∃ mark ∈ rangeSyntax.separator.toList,
    mark.isDigit = false ∧ mark ∉ rangeSyntax.wildcard.toList
  wildcardEnds : NoBlankEnds rangeSyntax.wildcard.toList

/-- An end of a range as it is written: a number, or the wildcard for no bound. -/
def endText (rangeSyntax : RangeSyntax) : Option Nat → String
  | none => rangeSyntax.wildcard
  | some number => toString number

theorem matches_endText (rangeSyntax : RangeSyntax) (bound : Option Nat) :
    Pattern.Matches rangeSyntax.bound (rangeSyntax.endText bound).toList := by
  cases bound with
  | none => exact .preferred (Pattern.matches_literal_iff.2 rfl)
  | some number =>
      rw [endText, toList_toString]
      exact (areDigits_toDigits number).matches_bound rangeSyntax

theorem Apart.noBlankEnds_endText {rangeSyntax : RangeSyntax} (apart : rangeSyntax.Apart)
    (bound : Option Nat) : NoBlankEnds (rangeSyntax.endText bound).toList := by
  cases bound with
  | none => exact apart.wildcardEnds
  | some number =>
      rw [endText, toList_toString]
      exact (areDigits_toDigits number).noBlankEnds

theorem not_mem_endText {rangeSyntax : RangeSyntax} {mark : Char} (notDigit : mark.isDigit = false)
    (notWildcard : mark ∉ rangeSyntax.wildcard.toList) (bound : Option Nat) :
    mark ∉ (rangeSyntax.endText bound).toList := by
  cases bound with
  | none => exact notWildcard
  | some number =>
      rw [endText, toList_toString]
      intro member
      rw [(areDigits_toDigits number).each mark member] at notDigit
      cases notDigit

theorem reads_endText (rangeSyntax : RangeSyntax) (lower upper : Option Nat) :
    rangeSyntax.Reads
      (rangeSyntax.endText lower ++ rangeSyntax.separator ++ rangeSyntax.endText upper).toList
      (rangeSyntax.endText lower).toList (rangeSyntax.endText upper).toList := by
  have noBlank : AllBlank [] := fun _ member => absurd member List.not_mem_nil
  exact ⟨[], [], [], [], noBlank, noBlank, noBlank, noBlank, rangeSyntax.matches_endText lower,
    rangeSyntax.matches_endText upper, by simp⟩

/-- A range between integers, or with open ends, has a single way to read it. -/
theorem Apart.eq_of_reads {rangeSyntax : RangeSyntax} (apart : rangeSyntax.Apart)
    {lower upper : Option Nat} {otherLower otherUpper : List Char}
    (reads : rangeSyntax.Reads
      (rangeSyntax.endText lower ++ rangeSyntax.separator ++ rangeSyntax.endText upper).toList
      otherLower otherUpper) :
    otherLower = (rangeSyntax.endText lower).toList ∧
      otherUpper = (rangeSyntax.endText upper).toList := by
  obtain ⟨mark, inside, notDigit, notWildcard⟩ := apart.marked
  obtain ⟨first, second, third, fourth, firstBlank, secondBlank, thirdBlank, fourthBlank, -, -,
    split⟩ := reads
  rw [String.toList_append, String.toList_append] at split
  obtain ⟨isLower, isUpper⟩ := eq_of_append_eq inside (not_mem_endText notDigit notWildcard lower)
    (not_mem_endText notDigit notWildcard upper) split
  have lowerEnds := apart.noBlankEnds_endText lower
  have upperEnds := apart.noBlankEnds_endText upper
  rw [isLower] at lowerEnds
  rw [isUpper] at upperEnds
  rw [isLower, isUpper]
  exact ⟨(lowerEnds.eq_inner firstBlank secondBlank).symm,
    (upperEnds.eq_inner thirdBlank fourthBlank).symm⟩

theorem Apart.split?_endText {rangeSyntax : RangeSyntax} (apart : rangeSyntax.Apart)
    (lower upper : Option Nat) :
    rangeSyntax.split?
        (rangeSyntax.endText lower ++ rangeSyntax.separator ++ rangeSyntax.endText upper) =
      some (rangeSyntax.endText lower, rangeSyntax.endText upper) :=
  split?_eq_some (rangeSyntax.reads_endText lower upper) fun _ _ => apart.eq_of_reads

end RangeSyntax

/-! ## Selections -/

/-- A number that fits the type of long integers and is not written like the wildcard. -/
structure IsBound (rangeSyntax : RangeSyntax) (number : Nat) : Prop where
  fits : (number : Int) ≤ Numeral.maxInt64
  notWildcard : toString number ≠ rangeSyntax.wildcard

theorem readScalar_long {number : Nat} (fits : (number : Int) ≤ Numeral.maxInt64) :
    readScalar .long (toString number) = .ok (.long (Int64.ofInt number)) := by
  have digits := areDigits_toDigits number
  have trimmed : trimBlanks (toString number).toList = Nat.toDigits 10 number := by
    rw [toList_toString]
    exact digits.noBlankEnds.trimBlanks
  have least : Numeral.minInt64 ≤ (number : Int) := by
    unfold Numeral.minInt64
    omega
  unfold readScalar
  dsimp only
  rw [trimmed, digits.readInt?, Nat.ofDigitChars_toDigits (by decide) (by decide)]
  rw [Option.filter_some, if_pos (by simp [least, fits])]
  rfl

/-- The bound that an end of a range stands for. -/
def longBound (bound : Option Nat) : Option TypedValue :=
  bound.map fun number : Nat => .long (Int64.ofInt number)

namespace FilterSyntax

theorem readBound_endText (filterSyntax : FilterSyntax) (day : Calendar.Period → Calendar.Date)
    {bound : Option Nat} (isBound : ∀ number ∈ bound, IsBound filterSyntax.range number) :
    filterSyntax.readBound .long day (filterSyntax.range.endText bound) =
      .ok (longBound bound) := by
  unfold readBound
  cases bound with
  | none => exact if_pos rfl
  | some number =>
      have ⟨fits, notWildcard⟩ := isBound number rfl
      rw [RangeSyntax.endText, if_neg notWildcard]
      dsimp only
      rw [readScalar_long fits]
      rfl

theorem negated?_eq_none_iff {filterSyntax : FilterSyntax} {raw : String} :
    filterSyntax.negated? raw = none ↔ ¬ filterSyntax.negationMark.toList <+: raw.toList := by
  have strip (start text : List Char) : stripStart? start text = none ↔ ¬ start <+: text := by
    induction start generalizing text with
    | nil => simp [stripStart?]
    | cons expected start inductionHypothesis =>
        cases text with
        | nil => simp [stripStart?]
        | cons c text =>
            by_cases same : expected = c
            · simp [stripStart?, same, inductionHypothesis, List.cons_prefix_cons]
            · simp [stripStart?, same, List.cons_prefix_cons]
  rw [negated?, Option.map_eq_none_iff, strip]

/-- **Ranges mean what they state, unless they begin like an excluded value.** If the separator and
the wildcard are apart, a range between integers or with open ends is read with these bounds, and
as a selected one, exactly if its text does not begin with the mark of excluded values. Accepted
settings can have such a mark: it has to differ from the separator only. -/
theorem readSelection_endText_iff {settings : Settings}
    (apart : settings.filterSyntax.range.Apart) {lower upper : Option Nat}
    (lowerIsBound : ∀ number ∈ lower, IsBound settings.filterSyntax.range number)
    (upperIsBound : ∀ number ∈ upper, IsBound settings.filterSyntax.range number) :
    let range := settings.filterSyntax.range
    let raw := range.endText lower ++ range.separator ++ range.endText upper
    settings.filterSyntax.readSelection .long raw =
        .ok ⟨false, .between (longBound lower) (longBound upper)⟩ ↔
      ¬ settings.negationMark.toList <+: raw.toList := by
  intro range raw
  have condition : settings.filterSyntax.readCondition .long raw =
      .ok (.between (longBound lower) (longBound upper)) := by
    unfold readCondition
    rw [apart.split?_endText lower upper]
    simp only [readRange, readBound_endText _ _ lowerIsBound, readBound_endText _ _ upperIsBound]
    rfl
  have unmarked : settings.filterSyntax.negated? raw = none ↔
      ¬ settings.negationMark.toList <+: raw.toList := negated?_eq_none_iff
  rw [← unmarked, readSelection]
  cases marked : settings.filterSyntax.negated? raw with
  | none => simp [condition, Except.map]
  | some rest =>
      dsimp only
      split
      · simp
      · simp [map_eq_ok_iff]

end FilterSyntax

/-! ## Settings -/

namespace Observations

/-- The usual settings with the wildcard as the mark of excluded values. -/
def starred : Settings :=
  { negationMark := "*" }

theorem apart_starred : starred.filterSyntax.range.Apart where
  marked := ⟨',', by decide, by decide, by decide⟩
  wildcardEnds := by
    constructor
    · intro c member
      cases member
      decide
    · intro c member
      cases member
      decide

theorem isBound_starred {number : Nat} (fits : (number : Int) ≤ Numeral.maxInt64) :
    IsBound starred.filterSyntax.range number where
  fits := fits
  notWildcard := by
    intro same
    have characters := congrArg String.toList same
    rw [toList_toString] at characters
    have digits := (areDigits_toDigits number).each '*'
    rw [characters] at digits
    exact absurd (digits (by decide)) (by decide)

theorem readSelection_endText_iff_starred :
    starred.validated = .ok starred ∧
      starred.filterSyntax.readSelection .long "1990,*" =
        .ok ⟨false, .between (some (.long 1990)) none⟩ ∧
      starred.filterSyntax.readSelection .long "*,2010" ≠
        .ok ⟨false, .between none (some (.long 2010))⟩ := by
  have numbers (number : Nat) (fits : (number : Int) ≤ Numeral.maxInt64) :
      ∀ other ∈ some number, IsBound starred.filterSyntax.range other := by
    intro other isNumber
    rw [← Option.mem_some.1 isNumber]
    exact isBound_starred fits
  have wildcards : ∀ other ∈ none, IsBound starred.filterSyntax.range other := by simp
  have upwards := FilterSyntax.readSelection_endText_iff apart_starred
    (numbers 1990 (by decide)) wildcards
  have downwards := FilterSyntax.readSelection_endText_iff apart_starred wildcards
    (numbers 2010 (by decide))
  refine ⟨by decide +kernel, upwards.2 (by decide +kernel), fun reads => ?_⟩
  exact downwards.1 reads (by decide +kernel)

/-- The usual settings with a digit between the bounds of ranges. -/
def zeroSeparated : Settings :=
  { rangeSeparator := "0" }

/-- Accepted settings can take the wildcard for the mark of excluded values, or cut a range inside
one of its bounds. -/
theorem accepted_settings_misread_ranges :
    starred.validated = .ok starred ∧
      starred.filterSyntax.readSelection .long "*,5" =
        .error (.value (.malformed ",5" "long")) ∧
      zeroSeparated.validated = .ok zeroSeparated ∧
      zeroSeparated.filterSyntax.readSelection .long ("1" ++ "0" ++ "203") =
        .ok ⟨false, .between (some (.long 102)) (some (.long 3))⟩ := by
  decide +kernel

end Observations

end FacetedSearch
