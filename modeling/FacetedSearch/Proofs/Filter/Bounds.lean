import FacetedSearch.Proofs.Calendar.Forms
import FacetedSearch.Proofs.Filter.Ranges
import FacetedSearch.Proofs.Text.Trimming

/-!
Contract: the texts of bounds of ranges.

Owns:
- `Pattern.Visible`, patterns without blanks, and `Pattern.EndsVisibly`, patterns without blanks at
  the ends of what they describe, which `endsVisibly_bound` shows bounds to be;
- `matches_dateBound_of_form` and `matches_bound_of_form`: what has the form of a partial date has
  that of a bound.

The patterns of dates and the form of partial dates are written independently of each other.

Does not own: the values of bounds.
-/

namespace FacetedSearch

open Calendar Text

/-! ## Patterns without blanks -/

namespace Text.Pattern

/-- Whether no class of a pattern has a blank. -/
def Visible : Pattern → Prop
  | .nothing => True
  | .one accepts => ∀ c, accepts c = true → isBlank c = false
  | .many accepts => ∀ c, accepts c = true → isBlank c = false
  | .sequence first second => first.Visible ∧ second.Visible
  | .choice preferred other => preferred.Visible ∧ other.Visible

theorem Visible.isBlank_eq_false {pattern : Pattern} {text : List Char} (visible : pattern.Visible)
    (matched : Matches pattern text) : ∀ c ∈ text, isBlank c = false := by
  induction matched with
  | nothing => simp
  | one accepted => simpa using visible _ accepted
  | many accepted => exact fun c member => visible c (accepted c member)
  | sequence leftMatches rightMatches first second =>
      exact List.forall_mem_append.2 ⟨first visible.1, second visible.2⟩
  | preferred textMatches inductionHypothesis => exact inductionHypothesis visible.1
  | other textMatches inductionHypothesis => exact inductionHypothesis visible.2

theorem visible_char {expected : Char} (notBlank : isBlank expected = false) :
    (char expected).Visible := by
  intro c same
  rw [eq_of_beq same]
  exact notBlank

theorem visible_either {first second : Char} (firstNotBlank : isBlank first = false)
    (secondNotBlank : isBlank second = false) :
    (one fun c => c == first || c == second).Visible := by
  intro c either
  rcases Bool.or_eq_true_iff.1 either with same | same
  · exact eq_of_beq same ▸ firstNotBlank
  · exact eq_of_beq same ▸ secondNotBlank

theorem visible_digit : digit.Visible :=
  fun _ => isBlank_of_isDecimalDigit

theorem visible_digits : (oneOrMore isDecimalDigit).Visible :=
  ⟨visible_digit, visible_digit⟩

theorem visible_twoDigits : twoDigits.Visible :=
  ⟨visible_digit, visible_digit⟩

theorem visible_oneOrTwoDigits : oneOrTwoDigits.Visible :=
  ⟨visible_digit, visible_digit, trivial⟩

theorem visible_offset : offset.Visible :=
  ⟨visible_char (by decide), visible_either (by decide) (by decide), visible_twoDigits,
    ⟨visible_char (by decide), trivial⟩, visible_twoDigits, trivial⟩

theorem visible_seconds : seconds.Visible :=
  ⟨visible_char (by decide), visible_twoDigits,
    ⟨⟨visible_char (by decide), visible_digits⟩, trivial⟩, trivial⟩

theorem visible_numberBound : numberBound.Visible :=
  ⟨⟨visible_char (by decide), trivial⟩, visible_digits,
    ⟨⟨visible_char (by decide), visible_digits⟩, trivial⟩,
    ⟨⟨visible_either (by decide) (by decide), ⟨visible_either (by decide) (by decide), trivial⟩,
      visible_digits, trivial⟩, trivial⟩, trivial⟩

/-- A time of day has no blank behind its mark. -/
theorem exists_of_matches_timeOfDay {text : List Char} (matched : Matches timeOfDay text) :
    ∃ mark back, text = mark :: back ∧ NoBlankEnds back ∧ back ≠ [] := by
  obtain ⟨_, back, isMark, isBack, rfl⟩ := matches_sequence_iff.1 matched
  obtain ⟨mark, -, rfl⟩ := matches_one_iff.1 isMark
  have visible : (inOrder [oneOrTwoDigits, char ':', twoDigits, optional seconds,
      optional offset]).Visible :=
    ⟨visible_oneOrTwoDigits, visible_char (by decide), visible_twoDigits,
      ⟨visible_seconds, trivial⟩, ⟨visible_offset, trivial⟩, trivial⟩
  refine ⟨mark, back, rfl, .of_forall (visible.isBlank_eq_false isBack), ?_⟩
  obtain ⟨hour, _, -, isRest, rfl⟩ := matches_sequence_iff.1 isBack
  obtain ⟨_, rest, isColon, -, rfl⟩ := matches_sequence_iff.1 isRest
  obtain ⟨colon, -, rfl⟩ := matches_one_iff.1 isColon
  simp

/-- Whether what a pattern describes has no blanks at its ends. -/
def EndsVisibly (pattern : Pattern) : Prop :=
  ∀ text, Matches pattern text → NoBlankEnds text

theorem Visible.endsVisibly {pattern : Pattern} (visible : pattern.Visible) :
    pattern.EndsVisibly :=
  fun _ matched => .of_forall (visible.isBlank_eq_false matched)

theorem EndsVisibly.sequence {first second : Pattern} (firstEnds : first.EndsVisibly)
    (secondEnds : second.EndsVisibly) : (first.sequence second).EndsVisibly := by
  intro text matched
  obtain ⟨left, right, isLeft, isRight, rfl⟩ := matches_sequence_iff.1 matched
  exact (firstEnds left isLeft).append (secondEnds right isRight)

theorem EndsVisibly.choice {preferred other : Pattern} (preferredEnds : preferred.EndsVisibly)
    (otherEnds : other.EndsVisibly) : (preferred.choice other).EndsVisibly := by
  intro text matched
  cases matched with
  | preferred isText => exact preferredEnds text isText
  | other isText => exact otherEnds text isText

/-- The blank that may stand for the mark of a time follows the digits of a day. -/
theorem endsVisibly_day : (oneOrTwoDigits.sequence (inOrder [optional timeOfDay])).EndsVisibly := by
  intro text matched
  obtain ⟨day, rest, isDay, isRest, rfl⟩ := matches_sequence_iff.1 matched
  have dayEnds := visible_oneOrTwoDigits.endsVisibly day isDay
  obtain ⟨time, _, isTime, isNothing, rfl⟩ := matches_sequence_iff.1 isRest
  rw [matches_nothing_iff.1 isNothing, List.append_nil]
  cases isTime with
  | other isNothing =>
      rw [matches_nothing_iff.1 isNothing, List.append_nil]
      exact dayEnds
  | preferred isTime =>
      obtain ⟨mark, back, rfl, backEnds, someBack⟩ := exists_of_matches_timeOfDay isTime
      obtain ⟨_, _, isDigit, -, rfl⟩ := matches_sequence_iff.1 isDay
      obtain ⟨digit, -, rfl⟩ := matches_one_iff.1 isDigit
      exact dayEnds.around (by simp) [mark] backEnds someBack

/-- A day of a month, and perhaps a time of day, as it stands behind the month of a date. -/
def dayBound : Pattern :=
  inOrder [char '-', oneOrTwoDigits, optional timeOfDay]

theorem endsVisibly_nothing : nothing.EndsVisibly :=
  Visible.endsVisibly trivial

theorem endsVisibly_hyphen : (char '-').EndsVisibly :=
  Visible.endsVisibly (visible_char (by decide))

theorem endsVisibly_dateBound : dateBound.EndsVisibly := by
  have dayEnds : (optional dayBound).EndsVisibly :=
    .choice (.sequence endsVisibly_hyphen endsVisibly_day) endsVisibly_nothing
  have monthEnds :=
    visible_oneOrTwoDigits.endsVisibly.sequence (dayEnds.sequence endsVisibly_nothing)
  have yearEnds := visible_twoDigits.endsVisibly
  exact yearEnds.sequence (yearEnds.sequence (endsVisibly_hyphen.sequence monthEnds))

end Text.Pattern

/-- Bounds have no blanks at their ends, unless the wildcard has. -/
theorem endsVisibly_bound {rangeSyntax : RangeSyntax}
    (wildcardEnds : NoBlankEnds rangeSyntax.wildcard.toList) : rangeSyntax.bound.EndsVisibly := by
  have isWildcard : (Pattern.literal rangeSyntax.wildcard.toList).EndsVisibly := by
    intro text matched
    rw [Pattern.matches_literal_iff.1 matched]
    exact wildcardEnds
  exact isWildcard.choice (Pattern.endsVisibly_dateBound.choice
    Pattern.visible_numberBound.endsVisibly)

/-! ## Dates as bounds -/

namespace Text.Pattern

variable {text : List Char}

theorem matches_inOrder_singleton {pattern : Pattern} (matched : Matches pattern text) :
    Matches (inOrder [pattern]) text := by
  have sequence := Matches.sequence matched .nothing
  rwa [List.append_nil] at sequence

theorem matches_twoDigits (isGroup : IsGroup isDecimalDigit 2 2 text) : Matches twoDigits text := by
  have length := Nat.le_antisymm isGroup.atMost isGroup.atLeast
  obtain ⟨first, second, rfl⟩ := List.length_eq_two.1 length
  have digits := isGroup.digits
  exact .sequence (.one (digits first (by simp))) (.one (digits second (by simp)))

theorem matches_oneOrTwoDigits (isGroup : IsGroup isDecimalDigit 1 2 text) :
    Matches oneOrTwoDigits text := by
  have digits := isGroup.digits
  match text, isGroup.atLeast, isGroup.atMost with
  | [only], _, _ => exact .sequence (.one (digits only (by simp))) (.other .nothing)
  | [first, second], _, _ =>
      exact .sequence (.one (digits first (by simp))) (.preferred (.one (digits second (by simp))))

theorem matches_optional_offset (form : OffsetForm isDecimalDigit text) :
    Matches (optional offset) text := by
  cases form with
  | nothing => exact .other .nothing
  | universal => exact .preferred (.preferred (.one (by decide)))
  | @numeric sign hours colon minutes isSign isHours isColon isMinutes =>
      have isSign : (sign == '+' || sign == '-') = true := by simpa using isSign
      have isColon : Matches (optional (char ':')) colon := by
        rcases isColon with rfl | rfl
        · exact .other .nothing
        · exact .preferred (.one (by decide))
      have minutesMatch := matches_inOrder_singleton (matches_twoDigits isMinutes)
      exact .preferred (.other (.sequence (.one isSign)
        (.sequence (matches_twoDigits isHours) (.sequence isColon minutesMatch))))

theorem matches_optional_fraction (form : FractionForm isDecimalDigit text) :
    Matches (optional (.sequence (char '.') (oneOrMore isDecimalDigit))) text := by
  cases form with
  | nothing => exact .other .nothing
  | digits each =>
      exact .preferred (.sequence (.one (by decide)) (matches_digits (List.cons_ne_nil _ _) each))

theorem matches_timeOfDay {mark : Char} {hour minute : List Char} {second : Option (List Char)}
    (isMark : mark = 'T' ∨ mark = ' ') (form : TimeForm isDecimalDigit hour minute second text) :
    Matches timeOfDay (mark :: text) := by
  have marked : Matches (.one fun c => c == 'T' || c == ' ') [mark] :=
    .one (by simpa using isMark)
  have isColon : Matches (char ':') [':'] := .one (by decide)
  cases form with
  | minutes isHour isMinute isOffset =>
      have behind := matches_inOrder_singleton (matches_optional_offset isOffset)
      exact .sequence marked (.sequence (matches_oneOrTwoDigits isHour) (.sequence isColon
        (.sequence (matches_twoDigits isMinute) (.sequence (.other .nothing) behind))))
  | @seconds second fraction offset isHour isMinute isSecond isFraction isOffset =>
      have behind := matches_inOrder_singleton (matches_optional_offset isOffset)
      have isSeconds : Matches (optional seconds) (':' :: (second ++ fraction)) :=
        .preferred (.sequence isColon (.sequence (matches_twoDigits isSecond)
          (matches_inOrder_singleton (matches_optional_fraction isFraction))))
      have split : mark :: (hour ++ ':' :: (minute ++ ':' :: (second ++ (fraction ++ offset)))) =
          [mark] ++ (hour ++ ([':'] ++ (minute ++ (':' :: (second ++ fraction) ++ offset)))) := by
        simp
      rw [split]
      exact .sequence marked (.sequence (matches_oneOrTwoDigits isHour) (.sequence isColon
        (.sequence (matches_twoDigits isMinute) (.sequence isSeconds behind))))

theorem matches_dateBound {year month behind : List Char} (isYear : IsGroup isDecimalDigit 4 4 year)
    (isMonth : IsGroup isDecimalDigit 1 2 month) (matched : Matches (optional dayBound) behind) :
    Matches dateBound (year ++ '-' :: (month ++ behind)) := by
  obtain ⟨first, second, isFirst, isSecond, rfl⟩ := IsGroup.exists_append 2 2 isYear
  have isHyphen : Matches (char '-') ['-'] := .one (by decide)
  have whole := Matches.sequence (matches_twoDigits isFirst) (.sequence (matches_twoDigits isSecond)
    (.sequence isHyphen (.sequence (matches_oneOrTwoDigits isMonth)
      (matches_inOrder_singleton matched))))
  rw [List.append_assoc]
  exact whole

theorem matches_dayBound {day time : List Char} (isDay : IsGroup isDecimalDigit 1 2 day)
    (matched : Matches (optional timeOfDay) time) : Matches dayBound ('-' :: (day ++ time)) :=
  .sequence (.one (by decide)) (.sequence (matches_oneOrTwoDigits isDay)
    (matches_inOrder_singleton matched))

end Text.Pattern

/-- What has the form of a partial date with a month has that of a date as a bound. -/
theorem matches_dateBound_of_form {parts : DateParts} {text : List Char}
    (form : parts.Form isDecimalDigit text) (hasMonth : parts.month.isSome = true) :
    Pattern.Matches .dateBound text := by
  cases form with
  | year isYear => cases hasMonth
  | month isYear isMonth =>
      have isDate := Pattern.matches_dateBound isYear isMonth (.other .nothing)
      rw [List.append_nil] at isDate
      exact isDate
  | day isYear isMonth isDay =>
      have isDayBound := Pattern.matches_dayBound isDay (.other .nothing)
      rw [List.append_nil] at isDayBound
      exact Pattern.matches_dateBound isYear isMonth (.preferred isDayBound)
  | moment isYear isMonth isDay isMark isTime =>
      have isDayBound := Pattern.matches_dayBound isDay
        (.preferred (Pattern.matches_timeOfDay isMark isTime))
      exact Pattern.matches_dateBound isYear isMonth (.preferred isDayBound)

/-- What has the form of a partial date has that of a bound: a year that of a number, and all else
that of a date. -/
theorem matches_bound_of_form {parts : DateParts} {text : List Char}
    (form : parts.Form isDecimalDigit text) (rangeSyntax : RangeSyntax) :
    Pattern.Matches rangeSyntax.bound text := by
  cases form with
  | year isYear =>
      have notEmpty := List.ne_nil_of_length_pos (Nat.lt_of_lt_of_le (by decide) isYear.atLeast)
      exact .other (.other (matches_numberBound_of_digits notEmpty isYear.digits))
  | month isYear isMonth =>
      exact .other (.preferred (matches_dateBound_of_form (.month isYear isMonth) rfl))
  | day isYear isMonth isDay =>
      exact .other (.preferred (matches_dateBound_of_form (.day isYear isMonth isDay) rfl))
  | moment isYear isMonth isDay isMark isTime =>
      exact .other (.preferred
        (matches_dateBound_of_form (.moment isYear isMonth isDay isMark isTime) rfl))

end FacetedSearch
