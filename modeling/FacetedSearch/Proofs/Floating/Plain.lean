import FacetedSearch.Floating.Layout
import FacetedSearch.Proofs.Text.Characters

/-!
Contract: the characters of floating-point numbers in their written forms.

Owns:
- `renderChars_isValueCharacter`: in a layout without plus signs numbers have the characters of
  values only, also those that are not finite;
- `plain_isValueCharacter` and `plain_ne_nil`: this holds of numbers that are written out in full,
  whose texts are not empty.

Does not own: the values of such texts.
-/

namespace FacetedSearch.Floating

variable {layout : Layout} {digits : List Char}

theorem positionalDigits_isValueCharacter (areDigits : AreDigits digits) (exponent : Int) :
    ∀ c ∈ layout.positionalDigits digits exponent, IsValueCharacter c := by
  have ofDigits : ∀ c ∈ digits, IsValueCharacter c := fun c member =>
    isValueCharacter_of_isDigit (areDigits.each c member)
  have ofPoint : ∀ c ∈ (if layout.keepsPoint then ['.', '0'] else []), IsValueCharacter c := by
    cases layout.keepsPoint with
    | false => exact forall_mem_of_all (by decide)
    | true => exact forall_mem_of_all (by decide)
  intro c member
  unfold Layout.positionalDigits at member
  split at member
  · simp only [List.mem_append] at member
    rcases member with (inDigits | isZero) | isPoint
    · exact ofDigits c inDigits
    · rw [(List.mem_replicate.1 isZero).2]
      decide
    · exact ofPoint c isPoint
  · dsimp only at member
    split at member
    · rcases List.mem_append.1 member with inFront | inBack
      · exact ofDigits c (List.mem_of_mem_take inFront)
      · rcases List.mem_cons.1 inBack with isPoint | inFraction
        · rw [isPoint]
          decide
        · exact ofDigits c (List.mem_of_mem_drop inFraction)
    · simp only [List.mem_append, List.mem_cons, List.not_mem_nil, or_false] at member
      rcases member with ((isZero | isPoint) | isPadding) | inDigits
      · rw [isZero]
        decide
      · rw [isPoint]
        decide
      · rw [(List.mem_replicate.1 isPadding).2]
        decide
      · exact ofDigits c inDigits

theorem scientificDigits_isValueCharacter (noPlus : layout.plusSign = false)
    (areDigits : AreDigits digits) (leading : Int) :
    ∀ c ∈ layout.scientificDigits digits leading, IsValueCharacter c := by
  have ofDigits : ∀ c ∈ digits, IsValueCharacter c := fun c member =>
    isValueCharacter_of_isDigit (areDigits.each c member)
  have ofSign : ∀ c ∈ (if leading < 0 then ['-'] else []), IsValueCharacter c := by
    split
    · exact forall_mem_of_all (by decide)
    · exact forall_mem_of_all (by decide)
  intro c member
  simp only [Layout.scientificDigits, noPlus, Bool.false_eq_true, if_false, List.mem_append,
    List.mem_cons] at member
  rcases member with ((inFront | inFraction) | isMark | inSign) | inExponent
  · exact ofDigits c (List.mem_of_mem_take inFront)
  · split at inFraction
    · rcases List.mem_cons.1 inFraction with isPoint | inDigits
      · rw [isPoint]
        decide
      · exact ofDigits c (List.mem_of_mem_drop inDigits)
    · cases inFraction
  · rw [isMark]
    decide
  · exact ofSign c inSign
  · exact isValueCharacter_of_isDigit ((areDigits_toDigits _).each c inExponent)

theorem renderDecimal_isValueCharacter (noPlus : layout.plusSign = false) (decimal : Decimal) :
    ∀ c ∈ layout.renderDecimal decimal, IsValueCharacter c := by
  unfold Layout.renderDecimal
  dsimp only
  split
  · exact positionalDigits_isValueCharacter (areDigits_toDigits _) _
  · exact scientificDigits_isValueCharacter noPlus (areDigits_toDigits _) _

theorem positionalDigits_ne_nil (areDigits : AreDigits digits) (exponent : Int) : plainLayout.positionalDigits digits exponent ≠ [] := by
  unfold Layout.positionalDigits
  split
  · simp [areDigits.notEmpty]
  · dsimp only
    split <;> simp

theorem renderDecimal_plain (decimal : Decimal) :
    plainLayout.renderDecimal decimal =
      plainLayout.positionalDigits (Nat.toDigits 10 decimal.digits) decimal.exponent :=
  rfl

variable {format : Format}

theorem renderChars_isValueCharacter (noPlus : layout.plusSign = false)
    (number : Floating format) : ∀ c ∈ layout.renderChars number, IsValueCharacter c := by
  have ofSign (negative : Bool) : ∀ c ∈ (if negative then ['-'] else []), IsValueCharacter c := by
    cases negative with
    | false => exact forall_mem_of_all (by decide)
    | true => exact forall_mem_of_all (by decide)
  intro c member
  cases number with
  | finite negative code =>
      rw [Layout.renderChars] at member
      rcases List.mem_append.1 member with inSign | inDigits
      · exact ofSign negative c inSign
      · split at inDigits
        · exact renderDecimal_isValueCharacter noPlus _ c inDigits
        · exact renderDecimal_isValueCharacter noPlus _ c inDigits
  | infinite negative =>
      rcases List.mem_append.1 member with inSign | inWord
      · exact ofSign negative c inSign
      · have word : ∀ c ∈ ['i', 'n', 'f'], IsValueCharacter c :=
          forall_mem_of_all (by decide)
        exact word c inWord
  | notANumber =>
      have word : ∀ c ∈ ['N', 'a', 'N'], IsValueCharacter c :=
        forall_mem_of_all (by decide)
      exact word c member

theorem plain_isValueCharacter (number : Floating format) :
    ∀ c ∈ plainLayout.renderChars number, IsValueCharacter c :=
  renderChars_isValueCharacter rfl number

theorem plain_ne_nil (number : Floating format) : plainLayout.renderChars number ≠ [] := by
  cases number with
  | finite negative code =>
      rw [Layout.renderChars, renderDecimal_plain, renderDecimal_plain]
      apply List.append_ne_nil_of_right_ne_nil
      split
      · exact positionalDigits_ne_nil (areDigits_toDigits _) _
      · exact positionalDigits_ne_nil (areDigits_toDigits _) _
  | infinite negative => simp [Layout.renderChars]
  | notANumber => simp [Layout.renderChars]

end FacetedSearch.Floating
