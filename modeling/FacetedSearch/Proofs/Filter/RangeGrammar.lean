import FacetedSearch.Proofs.Filter.Bounds

/-!
Contract: the texts that are ranges, for any separator and wildcard that bounds cannot contain.

Owns:
- `NumberForm` and `BoundForm`, how numbers and dates are written as bounds, and
  `matches_bound_iff`: the patterns of bounds describe exactly these texts and the wildcard;
- `SpacedBound`, a bound with the blanks around it, and `RangeParts.Describes`, how a text is put
  together from two of them;
- `RangeSyntax.Separable`, a separator that no bound has a character of, and
  `Describes.unique`: then a text is put together in one way only;
- `ranges_follow_grammar`: a text is cut into two bounds exactly if it is put together from
  them, and is no range otherwise.

Does not own: the values of bounds, and the types that have ranges.
-/

namespace FacetedSearch

open Calendar Text

/-! ## Forms -/

/-- How an exponent is written, if at all. -/
inductive ExponentForm : List Char → Prop where
  | nothing : ExponentForm []
  | power {mark : Char} {sign digits : List Char} (isMark : mark = 'e' ∨ mark = 'E')
      (isSign : sign = [] ∨ sign = ['+'] ∨ sign = ['-']) (someDigits : digits ≠ [])
      (each : ∀ c ∈ digits, isDecimalDigit c = true) : ExponentForm (mark :: (sign ++ digits))

/-- How a number is written as a bound. -/
inductive NumberForm : List Char → Prop where
  | number {sign whole fraction exponent : List Char} (isSign : sign = [] ∨ sign = ['-'])
      (someDigits : whole ≠ []) (each : ∀ c ∈ whole, isDecimalDigit c = true)
      (isFraction : FractionForm isDecimalDigit fraction) (isExponent : ExponentForm exponent) :
      NumberForm (sign ++ (whole ++ (fraction ++ exponent)))

/-- How a bound is written: as a date with a month, or as a number. -/
inductive BoundForm : List Char → Prop where
  | date {parts : DateParts} {text : List Char} (form : parts.Form isDecimalDigit text)
      (hasMonth : parts.month.isSome = true) : BoundForm text
  | number {text : List Char} (form : NumberForm text) : BoundForm text

/-- What may stand at an end of a range. -/
def RangeSyntax.EndForm (rangeSyntax : RangeSyntax) (text : List Char) : Prop :=
  text = rangeSyntax.wildcard.toList ∨ BoundForm text

/-! ## Patterns of bounds -/

namespace Text.Pattern

variable {text : List Char}

theorem matches_choice_iff {preferred other : Pattern} :
    Matches (.choice preferred other) text ↔ Matches preferred text ∨ Matches other text := by
  constructor
  · rintro (_ | _ | _ | _ | isText | isText)
    · exact .inl isText
    · exact .inr isText
  · exact Or.rec .preferred .other

theorem matches_optional_iff {pattern : Pattern} :
    Matches (optional pattern) text ↔ Matches pattern text ∨ text = [] := by
  rw [optional, matches_choice_iff, matches_nothing_iff]

theorem matches_inOrder_cons_iff {first : Pattern} {rest : List Pattern} :
    Matches (inOrder (first :: rest)) text ↔
      ∃ left right, Matches first left ∧ Matches (inOrder rest) right ∧ text = left ++ right :=
  matches_sequence_iff

theorem matches_inOrder_singleton_iff {pattern : Pattern} :
    Matches (inOrder [pattern]) text ↔ Matches pattern text := by
  refine ⟨fun matched => ?_, matches_inOrder_singleton⟩
  obtain ⟨left, right, isLeft, isRight, rfl⟩ := matches_sequence_iff.1 matched
  rw [matches_nothing_iff.1 isRight, List.append_nil]
  exact isLeft

theorem matches_char_iff {expected : Char} : Matches (char expected) text ↔ text = [expected] := by
  rw [char, matches_one_iff]
  simp

theorem matches_oneOrMore_iff {accepts : Char → Bool} :
    Matches (oneOrMore accepts) text ↔ text ≠ [] ∧ ∀ c ∈ text, accepts c = true := by
  rw [oneOrMore, matches_sequence_iff]
  simp only [matches_one_iff, matches_many_iff]
  constructor
  · rintro ⟨_, rest, ⟨c, accepted, rfl⟩, each, rfl⟩
    exact ⟨List.cons_ne_nil _ _, List.forall_mem_cons.2 ⟨accepted, each⟩⟩
  · rintro ⟨notEmpty, each⟩
    obtain ⟨c, rest, rfl⟩ := List.exists_cons_of_ne_nil notEmpty
    obtain ⟨accepted, others⟩ := List.forall_mem_cons.1 each
    exact ⟨[c], rest, ⟨c, accepted, rfl⟩, others, rfl⟩

/-! ### Dates -/

theorem isGroup_of_matches_twoDigits (matched : Matches twoDigits text) :
    IsGroup isDecimalDigit 2 2 text := by
  obtain ⟨_, _, isFirst, isSecond, rfl⟩ := matches_sequence_iff.1 matched
  obtain ⟨first, firstDigit, rfl⟩ := matches_one_iff.1 isFirst
  obtain ⟨second, secondDigit, rfl⟩ := matches_one_iff.1 isSecond
  exact ⟨by simp [firstDigit, secondDigit], Nat.le_refl 2, Nat.le_refl 2⟩

theorem isGroup_of_matches_oneOrTwoDigits (matched : Matches oneOrTwoDigits text) :
    IsGroup isDecimalDigit 1 2 text := by
  obtain ⟨_, _, isFirst, isSecond, rfl⟩ := matches_sequence_iff.1 matched
  obtain ⟨first, firstDigit, rfl⟩ := matches_one_iff.1 isFirst
  rcases matches_optional_iff.1 isSecond with isSecond | rfl
  · obtain ⟨second, secondDigit, rfl⟩ := matches_one_iff.1 isSecond
    exact ⟨by simp [firstDigit, secondDigit], by simp, by simp⟩
  · exact ⟨by simp [firstDigit], by simp, by simp⟩

theorem offsetForm_of_matches (matched : Matches (optional offset) text) :
    OffsetForm isDecimalDigit text := by
  rcases matches_optional_iff.1 matched with isOffset | rfl
  · rcases matches_choice_iff.1 isOffset with isUniversal | isNumeric
    · rw [matches_char_iff.1 isUniversal]
      exact .universal
    · obtain ⟨_, _, signMatch, isRest, rfl⟩ := matches_inOrder_cons_iff.1 isNumeric
      obtain ⟨hours, _, isHours, isBehind, rfl⟩ := matches_inOrder_cons_iff.1 isRest
      obtain ⟨colon, minutes, isColon, isMinutes, rfl⟩ := matches_inOrder_cons_iff.1 isBehind
      obtain ⟨sign, isSign, rfl⟩ := matches_one_iff.1 signMatch
      rw [matches_optional_iff, matches_char_iff] at isColon
      rw [List.singleton_append]
      exact .numeric (by simpa using isSign) (isGroup_of_matches_twoDigits isHours) isColon.symm
        (isGroup_of_matches_twoDigits (matches_inOrder_singleton_iff.1 isMinutes))
  · exact .nothing

theorem fractionForm_of_matches
    (matched : Matches (optional (.sequence (char '.') (oneOrMore isDecimalDigit))) text) :
    FractionForm isDecimalDigit text := by
  rcases matches_optional_iff.1 matched with isFraction | rfl
  · obtain ⟨_, digits, isPoint, isDigits, rfl⟩ := matches_sequence_iff.1 isFraction
    obtain ⟨notEmpty, each⟩ := matches_oneOrMore_iff.1 isDigits
    obtain ⟨c, rest, rfl⟩ := List.exists_cons_of_ne_nil notEmpty
    rw [matches_char_iff.1 isPoint]
    exact .digits each
  · exact .nothing

theorem exists_timeForm_of_matches (matched : Matches timeOfDay text) :
    ∃ mark hour minute second time, (mark = 'T' ∨ mark = ' ') ∧
      TimeForm isDecimalDigit hour minute second time ∧ text = mark :: time := by
  obtain ⟨_, _, markMatch, isTime, rfl⟩ := matches_inOrder_cons_iff.1 matched
  obtain ⟨hour, _, isHour, isRest, rfl⟩ := matches_inOrder_cons_iff.1 isTime
  obtain ⟨_, _, isColon, behindColon, rfl⟩ := matches_inOrder_cons_iff.1 isRest
  obtain ⟨minute, _, isMinute, behindMinute, rfl⟩ := matches_inOrder_cons_iff.1 behindColon
  obtain ⟨behind, offset, isSeconds, isOffset, rfl⟩ := matches_inOrder_cons_iff.1 behindMinute
  obtain ⟨mark, isMark, rfl⟩ := matches_one_iff.1 markMatch
  rw [matches_char_iff.1 isColon]
  have isHour := isGroup_of_matches_oneOrTwoDigits isHour
  have isMinute := isGroup_of_matches_twoDigits isMinute
  have isOffset := offsetForm_of_matches (matches_inOrder_singleton_iff.1 isOffset)
  rcases matches_optional_iff.1 isSeconds with isSeconds | rfl
  · obtain ⟨_, _, isNextColon, behindNextColon, rfl⟩ := matches_inOrder_cons_iff.1 isSeconds
    obtain ⟨second, fraction, isSecond, isFraction, rfl⟩ :=
      matches_inOrder_cons_iff.1 behindNextColon
    rw [matches_char_iff.1 isNextColon]
    refine ⟨mark, hour, minute, some second, _, by simpa using isMark,
      .seconds isHour isMinute (isGroup_of_matches_twoDigits isSecond)
        (fractionForm_of_matches (matches_inOrder_singleton_iff.1 isFraction)) isOffset, ?_⟩
    simp
  · exact ⟨mark, hour, minute, none, _, by simpa using isMark,
      .minutes isHour isMinute isOffset, by simp⟩

/-- Dates as bounds have the form of a partial date with a month. -/
theorem exists_form_of_matches_dateBound (matched : Matches dateBound text) :
    ∃ parts : DateParts, parts.Form isDecimalDigit text ∧ parts.month.isSome = true := by
  obtain ⟨century, _, isCentury, behindCentury, rfl⟩ := matches_inOrder_cons_iff.1 matched
  obtain ⟨decade, _, isDecade, behindYear, rfl⟩ := matches_inOrder_cons_iff.1 behindCentury
  obtain ⟨_, _, isHyphen, behindHyphen, rfl⟩ := matches_inOrder_cons_iff.1 behindYear
  obtain ⟨month, behind, isMonth, isBehind, rfl⟩ := matches_inOrder_cons_iff.1 behindHyphen
  rw [matches_char_iff.1 isHyphen, ← List.append_assoc]
  have isYear := (isGroup_of_matches_twoDigits isCentury).append
    (isGroup_of_matches_twoDigits isDecade)
  have isMonth := isGroup_of_matches_oneOrTwoDigits isMonth
  rcases matches_optional_iff.1 (matches_inOrder_singleton_iff.1 isBehind) with isDayBound | rfl
  · obtain ⟨_, _, isHyphen, isRest, rfl⟩ := matches_inOrder_cons_iff.1 isDayBound
    obtain ⟨day, behindDay, isDay, isBehindDay, rfl⟩ := matches_inOrder_cons_iff.1 isRest
    rw [matches_char_iff.1 isHyphen]
    have isDay := isGroup_of_matches_oneOrTwoDigits isDay
    rcases matches_optional_iff.1 (matches_inOrder_singleton_iff.1 isBehindDay) with
      timeMatch | rfl
    · obtain ⟨mark, hour, minute, second, time, isMark, isTime, rfl⟩ :=
        exists_timeForm_of_matches timeMatch
      exact ⟨_, .moment isYear isMonth isDay isMark isTime, rfl⟩
    · rw [List.append_nil]
      exact ⟨_, .day isYear isMonth isDay, rfl⟩
  · rw [List.append_nil]
    exact ⟨_, .month isYear isMonth, rfl⟩

/-! ### Numbers -/

theorem exponentForm_iff :
    Matches (optional (inOrder [.one fun c => c == 'e' || c == 'E',
      optional (.one fun c => c == '+' || c == '-'), oneOrMore isDecimalDigit])) text ↔
      ExponentForm text := by
  constructor
  · intro matched
    rcases matches_optional_iff.1 matched with isPower | rfl
    · obtain ⟨_, _, markMatch, isRest, rfl⟩ := matches_inOrder_cons_iff.1 isPower
      obtain ⟨sign, digits, isSign, isDigits, rfl⟩ := matches_inOrder_cons_iff.1 isRest
      obtain ⟨mark, isMark, rfl⟩ := matches_one_iff.1 markMatch
      obtain ⟨someDigits, each⟩ :=
        matches_oneOrMore_iff.1 (matches_inOrder_singleton_iff.1 isDigits)
      rw [matches_optional_iff] at isSign
      rw [List.singleton_append]
      refine .power (by simpa using isMark) ?_ someDigits each
      rcases isSign with isSign | rfl
      · obtain ⟨c, isPlusOrMinus, rfl⟩ := matches_one_iff.1 isSign
        simpa using isPlusOrMinus
      · exact .inl rfl
    · exact .nothing
  · intro form
    cases form with
    | nothing => exact .other .nothing
    | @power mark sign digits isMark isSign someDigits each =>
        have isMark : (mark == 'e' || mark == 'E') = true := by simpa using isMark
        have isSign : Matches (optional (.one fun c => c == '+' || c == '-')) sign := by
          rcases isSign with rfl | rfl | rfl
          · exact .other .nothing
          · exact .preferred (.one (by decide))
          · exact .preferred (.one (by decide))
        exact .preferred (.sequence (.one isMark) (.sequence isSign
          (matches_inOrder_singleton (matches_digits someDigits each))))

theorem matches_numberBound_iff : Matches numberBound text ↔ NumberForm text := by
  constructor
  · intro matched
    obtain ⟨sign, _, isSign, isRest, rfl⟩ := matches_inOrder_cons_iff.1 matched
    obtain ⟨whole, _, isWhole, behindWhole, rfl⟩ := matches_inOrder_cons_iff.1 isRest
    obtain ⟨fraction, exponent, isFraction, isExponent, rfl⟩ :=
      matches_inOrder_cons_iff.1 behindWhole
    obtain ⟨someDigits, each⟩ := matches_oneOrMore_iff.1 isWhole
    rw [matches_optional_iff, matches_char_iff] at isSign
    exact .number isSign.symm someDigits each (fractionForm_of_matches isFraction)
      (exponentForm_iff.1 (matches_inOrder_singleton_iff.1 isExponent))
  · intro form
    cases form with
    | number isSign someDigits each isFraction isExponent =>
        refine .sequence ?_ (.sequence (matches_digits someDigits each)
          (.sequence (matches_optional_fraction isFraction)
            (matches_inOrder_singleton (exponentForm_iff.2 isExponent))))
        rw [matches_optional_iff, matches_char_iff]
        exact isSign.symm

end Text.Pattern

/-- The patterns of bounds describe the wildcard, dates with a month and numbers. -/
theorem matches_bound_iff {rangeSyntax : RangeSyntax} {text : List Char} :
    Pattern.Matches rangeSyntax.bound text ↔ rangeSyntax.EndForm text := by
  rw [RangeSyntax.bound, Pattern.matches_choice_iff, Pattern.matches_choice_iff,
    Pattern.matches_literal_iff, Pattern.matches_numberBound_iff, RangeSyntax.EndForm]
  refine or_congr_right ⟨?_, ?_⟩
  · rintro (isDate | isNumber)
    · obtain ⟨parts, form, hasMonth⟩ := Pattern.exists_form_of_matches_dateBound isDate
      exact .date form hasMonth
    · exact .number isNumber
  · rintro (⟨form, hasMonth⟩ | ⟨form⟩)
    · exact .inl (matches_dateBound_of_form form hasMonth)
    · exact .inr form

/-! ## Characters of bounds -/

/-- The characters of bounds besides digits. -/
def boundMarks : List Char :=
  'e' :: 'E' :: dateMarks

/-- A digit or a mark of bounds. -/
def IsBoundCharacter (c : Char) : Prop :=
  isDecimalDigit c = true ∨ c ∈ boundMarks

instance (c : Char) : Decidable (IsBoundCharacter c) :=
  inferInstanceAs (Decidable (_ ∨ _))

theorem IsBoundCharacter.of_date {c : Char} (character : IsDateCharacter isDecimalDigit c) :
    IsBoundCharacter c :=
  character.imp_right fun isMark => List.mem_cons_of_mem _ (List.mem_cons_of_mem _ isMark)

theorem forall_mem_digits {text : List Char} (each : ∀ c ∈ text, isDecimalDigit c = true) :
    ∀ c ∈ text, IsBoundCharacter c :=
  fun c member => .inl (each c member)

theorem ExponentForm.characters {text : List Char} (form : ExponentForm text) :
    ∀ c ∈ text, IsBoundCharacter c := by
  cases form with
  | nothing => simp
  | power isMark isSign someDigits each =>
      refine List.forall_mem_cons.2 ⟨by rcases isMark with rfl | rfl <;> decide, ?_⟩
      refine List.forall_mem_append.2 ⟨?_, forall_mem_digits each⟩
      rcases isSign with rfl | rfl | rfl <;> exact forall_mem_of_all (by decide)

theorem NumberForm.characters {text : List Char} (form : NumberForm text) :
    ∀ c ∈ text, IsBoundCharacter c := by
  cases form with
  | @number sign _ _ _ isSign someDigits each isFraction isExponent =>
      have ofSign : ∀ c ∈ sign, IsBoundCharacter c := by
        rcases isSign with rfl | rfl <;> exact forall_mem_of_all (by decide)
      refine List.forall_mem_append.2 ⟨ofSign, ?_⟩
      refine List.forall_mem_append.2 ⟨forall_mem_digits each, ?_⟩
      exact List.forall_mem_append.2
        ⟨fun c member => .of_date (isFraction.characters c member), isExponent.characters⟩

theorem BoundForm.characters {text : List Char} (form : BoundForm text) :
    ∀ c ∈ text, IsBoundCharacter c := by
  cases form with
  | date form hasMonth => exact fun c member => .of_date (form.characters c member)
  | number form => exact form.characters

theorem BoundForm.ne_nil {text : List Char} (form : BoundForm text) : text ≠ [] := by
  rcases form with ⟨form, hasMonth⟩ | ⟨_, someDigits, _, _, _⟩
  · cases form with
    | year isYear => cases hasMonth
    | month isYear isMonth => simp
    | day isYear isMonth isDay => simp
    | moment isYear isMonth isDay isMark isTime => simp
  · simp [someDigits]

/-! ## Texts that are put together as ranges -/

/-- A bound with the blanks around it. -/
@[ext]
structure SpacedBound where
  front : List Char
  bound : List Char
  back : List Char

def SpacedBound.chars (spaced : SpacedBound) : List Char :=
  spaced.front ++ spaced.bound ++ spaced.back

/-- Whether a bound and its blanks may stand at an end of a range. -/
structure SpacedBound.IsEnd (spaced : SpacedBound) (rangeSyntax : RangeSyntax) : Prop where
  frontBlank : AllBlank spaced.front
  form : rangeSyntax.EndForm spaced.bound
  backBlank : AllBlank spaced.back

/-- The two ends of a range. -/
@[ext]
structure RangeParts where
  lower : SpacedBound
  upper : SpacedBound

/-- Whether a text is put together from two ends and the separator between them. -/
structure RangeParts.Describes (parts : RangeParts) (rangeSyntax : RangeSyntax)
    (raw : List Char) : Prop where
  lower : parts.lower.IsEnd rangeSyntax
  upper : parts.upper.IsEnd rangeSyntax
  joined : raw = parts.lower.chars ++ rangeSyntax.separator.toList ++ parts.upper.chars

variable {rangeSyntax : RangeSyntax}

/-- The ways to read a text as a range are the ways to put it together. -/
theorem RangeSyntax.reads_iff_describes {raw lower upper : List Char} :
    rangeSyntax.Reads raw lower upper ↔
      ∃ parts : RangeParts, parts.Describes rangeSyntax raw ∧
        parts.lower.bound = lower ∧ parts.upper.bound = upper := by
  simp only [Reads, matches_bound_iff]
  constructor
  · rintro ⟨first, second, third, fourth, firstBlank, secondBlank, thirdBlank, fourthBlank,
      isLower, isUpper, joined⟩
    exact ⟨⟨⟨first, lower, second⟩, ⟨third, upper, fourth⟩⟩,
      ⟨⟨firstBlank, isLower, secondBlank⟩, ⟨thirdBlank, isUpper, fourthBlank⟩, joined⟩, rfl, rfl⟩
  · rintro ⟨parts, describes, rfl, rfl⟩
    exact ⟨parts.lower.front, parts.lower.back, parts.upper.front, parts.upper.back,
      describes.lower.frontBlank, describes.lower.backBlank, describes.upper.frontBlank,
      describes.upper.backBlank, describes.lower.form, describes.upper.form, describes.joined⟩

/-! ## Separators -/

namespace RangeSyntax

/-- A separator without blanks and characters of bounds, and a wildcard without blanks and
characters of the separator. -/
structure Separable (rangeSyntax : RangeSyntax) : Prop where
  separator : ∀ c ∈ rangeSyntax.separator.toList,
    isBlank c = false ∧ ∀ text, BoundForm text → c ∉ text
  wildcard : ∀ c ∈ rangeSyntax.wildcard.toList,
    isBlank c = false ∧ c ∉ rangeSyntax.separator.toList

/-- A separator is apart from all bounds if no character of it is a character of bounds. -/
theorem Separable.of_characters
    (separator : ∀ c ∈ rangeSyntax.separator.toList, isBlank c = false ∧ ¬ IsBoundCharacter c)
    (wildcard : ∀ c ∈ rangeSyntax.wildcard.toList,
      isBlank c = false ∧ c ∉ rangeSyntax.separator.toList) : rangeSyntax.Separable where
  separator c member := by
    obtain ⟨notBlank, notCharacter⟩ := separator c member
    exact ⟨notBlank, fun text form inside => notCharacter (form.characters c inside)⟩
  wildcard := wildcard

theorem Separable.noBlankEnds (separable : rangeSyntax.Separable) {text : List Char}
    (form : rangeSyntax.EndForm text) : NoBlankEnds text := by
  have wildcardEnds : NoBlankEnds rangeSyntax.wildcard.toList :=
    .of_forall fun c member => (separable.wildcard c member).1
  exact endsVisibly_bound wildcardEnds text (matches_bound_iff.2 form)

theorem EndForm.ne_nil (someWildcard : rangeSyntax.wildcard ≠ "") {text : List Char}
    (form : rangeSyntax.EndForm text) : text ≠ [] := by
  rcases form with rfl | form
  · exact fun isNil => someWildcard (String.toList_eq_nil_iff.1 isNil)
  · exact form.ne_nil

end RangeSyntax

namespace SpacedBound.IsEnd

variable {spaced other : SpacedBound}

/-- No character of the separator stands in an end of a range. -/
theorem not_mem_chars (isEnd : spaced.IsEnd rangeSyntax) (separable : rangeSyntax.Separable)
    {mark : Char} (inside : mark ∈ rangeSyntax.separator.toList) : mark ∉ spaced.chars := by
  obtain ⟨notBlank, notBound⟩ := separable.separator mark inside
  have notAmongBlanks {blanks : List Char} (allBlank : AllBlank blanks) : mark ∉ blanks := by
    intro member
    rw [allBlank mark member] at notBlank
    cases notBlank
  have notInBound : mark ∉ spaced.bound := by
    rcases isEnd.form with isWildcard | form
    · rw [isWildcard]
      exact fun member => (separable.wildcard mark member).2 inside
    · exact notBound _ form
  simp [chars, notAmongBlanks isEnd.frontBlank, notInBound, notAmongBlanks isEnd.backBlank]

theorem eq_of_chars_eq (isEnd : spaced.IsEnd rangeSyntax) (isOther : other.IsEnd rangeSyntax)
    (separable : rangeSyntax.Separable) (someWildcard : rangeSyntax.wildcard ≠ "")
    (same : spaced.chars = other.chars) : spaced = other := by
  obtain ⟨sameFront, sameBound, sameBack⟩ := eq_of_blanks_around isEnd.frontBlank isEnd.backBlank
    isOther.frontBlank isOther.backBlank (separable.noBlankEnds isEnd.form)
    (separable.noBlankEnds isOther.form) (isEnd.form.ne_nil someWildcard) same
  exact SpacedBound.ext sameFront sameBound sameBack

end SpacedBound.IsEnd

/-- Texts are put together as ranges in one way only: a character of the separator stands nowhere
else than in the separator, so both cuts are at the same place, and bounds have no blanks at their
ends. -/
theorem RangeParts.Describes.unique {raw : List Char} {parts other : RangeParts}
    (separable : rangeSyntax.Separable) (someSeparator : rangeSyntax.separator ≠ "")
    (someWildcard : rangeSyntax.wildcard ≠ "") (describes : parts.Describes rangeSyntax raw)
    (describesToo : other.Describes rangeSyntax raw) : parts = other := by
  obtain ⟨mark, inside⟩ :=
    List.exists_mem_of_ne_nil _ (mt String.toList_eq_nil_iff.1 someSeparator)
  obtain ⟨sameLower, sameUpper⟩ := eq_of_append_eq inside
    (describes.lower.not_mem_chars separable inside)
    (describes.upper.not_mem_chars separable inside)
    (describes.joined.symm.trans describesToo.joined)
  exact RangeParts.ext
    (describes.lower.eq_of_chars_eq describesToo.lower separable someWildcard sameLower)
    (describes.upper.eq_of_chars_eq describesToo.upper separable someWildcard sameUpper)

/-! ## Accepted settings -/

theorem Settings.range_ne_empty {settings : Settings}
    (accepted : settings.validated = .ok settings) :
    settings.filterSyntax.range.separator ≠ "" ∧ settings.filterSyntax.range.wildcard ≠ "" := by
  have holds := holds_of_validated accepted
  have separator := holds (.filled "range_separator" rangeSeparator) (by simp [bounds])
  have wildcard := holds (.filled "range_wildcard" rangeWildcard) (by simp [bounds])
  exact ⟨bne_iff_ne.1 separator, bne_iff_ne.1 wildcard⟩

/-- **Ranges have exactly their grammar.** Under accepted settings with a separable syntax, a text
is cut into two bounds exactly if it is put together from them, with blanks around each and the
separator between them. There is one way at most to put a text together, and the texts that are
not put together so are no ranges. -/
theorem ranges_follow_grammar {settings : Settings}
    (accepted : settings.validated = .ok settings)
    (separable : settings.filterSyntax.range.Separable) (raw : String) :
    (∀ lower upper, settings.filterSyntax.range.split? raw = some (lower, upper) ↔
      ∃ parts : RangeParts, parts.Describes settings.filterSyntax.range raw.toList ∧
        parts.lower.bound = lower.toList ∧ parts.upper.bound = upper.toList) ∧
    (∀ parts other : RangeParts, parts.Describes settings.filterSyntax.range raw.toList →
      other.Describes settings.filterSyntax.range raw.toList → parts = other) ∧
    (settings.filterSyntax.range.isRange raw = true ↔
      ∃ parts : RangeParts, parts.Describes settings.filterSyntax.range raw.toList) ∧
    (settings.filterSyntax.range.split? raw = none ↔
      ∀ parts : RangeParts, ¬ parts.Describes settings.filterSyntax.range raw.toList) := by
  obtain ⟨someSeparator, someWildcard⟩ := settings.range_ne_empty accepted
  generalize settings.filterSyntax.range = rangeSyntax at *
  have unique (parts other : RangeParts) (describes : parts.Describes rangeSyntax raw.toList)
      (describesToo : other.Describes rangeSyntax raw.toList) : parts = other :=
    describes.unique separable someSeparator someWildcard describesToo
  have noRange : rangeSyntax.split? raw = none ↔
      ∀ parts : RangeParts, ¬ parts.Describes rangeSyntax raw.toList := by
    simp only [RangeSyntax.split?_eq_none_iff, RangeSyntax.reads_iff_describes]
    exact ⟨fun never parts describes => never _ _ ⟨parts, describes, rfl, rfl⟩,
      fun never lower upper ⟨parts, describes, _, _⟩ => never parts describes⟩
  refine ⟨fun lower upper => ?_, unique, ?_, noRange⟩
  · rw [← RangeSyntax.reads_iff_describes]
    refine ⟨RangeSyntax.reads_of_split?_eq_some, fun reads => ?_⟩
    obtain ⟨parts, describes, isLower, isUpper⟩ := RangeSyntax.reads_iff_describes.1 reads
    apply RangeSyntax.split?_eq_some reads
    intro otherLower otherUpper readsToo
    obtain ⟨other, describesToo, rfl, rfl⟩ := RangeSyntax.reads_iff_describes.1 readsToo
    rw [unique other parts describesToo describes]
    exact ⟨isLower, isUpper⟩
  · rw [RangeSyntax.isRange, Option.isSome_iff_ne_none, ne_eq, noRange]
    simp

namespace Observations

/-- A range with blanks around its bounds and in one of them. -/
def spacedRange : String :=
  " -5.5e3 ,\t2000-01-02 10:30 "

theorem separable_usualSettings : (Settings.filterSyntax {}).range.Separable :=
  .of_characters (forall_mem_of_all (by decide)) (forall_mem_of_all (by decide))

theorem ranges_follow_grammar_spaced :
    (Settings.filterSyntax {}).range.split? spacedRange = some ("-5.5e3", "2000-01-02 10:30") ∧
      ∃ parts : RangeParts,
        parts.Describes (Settings.filterSyntax {}).range spacedRange.toList ∧
          parts.lower.bound = "-5.5e3".toList ∧
            parts.upper.bound = "2000-01-02 10:30".toList := by
  have cut : (Settings.filterSyntax {}).range.split? spacedRange =
      some ("-5.5e3", "2000-01-02 10:30") := by
    decide +kernel
  have accepted : Settings.validated {} = .ok {} := by
    decide +kernel
  have grammar := ranges_follow_grammar accepted separable_usualSettings spacedRange
  exact ⟨cut, (grammar.1 _ _).1 cut⟩

end Observations

end FacetedSearch
