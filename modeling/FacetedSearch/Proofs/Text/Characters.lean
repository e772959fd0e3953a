import FacetedSearch.Numeral
import FacetedSearch.Text.Blank
import FacetedSearch.Text.DecimalDigit

/-!
Contract: the characters of written numbers and days, and blanks around texts.

Owns:
- `forall_mem_of_all`, which turns a statement about the characters of a text into a computation;
- `isBlank_of_visible` and `isBlank_of_isDecimalDigit`: neither visible ASCII characters nor digits
  are blanks;
- `AreDigits`, non-empty texts of ASCII digits, which decimal numerals are, and their values;
- `IsValueCharacter`, the characters that numbers, words and times are written with;
- `NoBlankEnds.trimBlanks`: a text without blanks at its ends is not trimmed.

Does not own: the texts of values.
-/

namespace FacetedSearch

open Text

/-- What is true of each character of a text is checked character by character. -/
theorem forall_mem_of_all {holds : Char → Prop} [DecidablePred holds] {text : List Char}
    (all : (text.all fun c => decide (holds c)) = true) : ∀ c ∈ text, holds c := by
  simpa using all

/-! ## Blanks -/

theorem isBlank_of_visible {c : Char} (least : 33 ≤ c.toNat) (most : c.toNat ≤ 126) :
    isBlank c = false := by
  simp only [isBlank, blankRanges, Ranges.contains, List.any_cons, List.any_nil,
    Bool.or_eq_false_iff, Bool.and_eq_false_iff, decide_eq_false_iff_not, and_true]
  omega

/-- A text whose two ends, if it has any, are no blanks. -/
structure NoBlankEnds (text : List Char) : Prop where
  first : ∀ c ∈ text.head?, isBlank c = false
  last : ∀ c ∈ text.getLast?, isBlank c = false

theorem dropTrailingBlanks_eq_self {text : List Char}
    (last : ∀ c ∈ text.getLast?, isBlank c = false) : dropTrailingBlanks text = text := by
  induction text with
  | nil => rfl
  | cons c rest inductionHypothesis =>
      rw [dropTrailingBlanks]
      cases rest with
      | nil => simp [dropTrailingBlanks, last c (by simp)]
      | cons next others =>
          rw [inductionHypothesis (by simpa using last)]

theorem NoBlankEnds.trimBlanks {text : List Char} (ends : NoBlankEnds text) :
    Text.trimBlanks text = text := by
  unfold Text.trimBlanks
  cases text with
  | nil => rfl
  | cons c rest =>
      rw [List.dropWhile_cons_of_neg (by simp [ends.first c (by simp)])]
      exact dropTrailingBlanks_eq_self ends.last

/-! ## Digits -/

theorem toNat_of_isDigit {c : Char} (isDigit : c.isDigit = true) :
    48 ≤ c.toNat ∧ c.toNat ≤ 57 := by
  simp only [Char.isDigit, Bool.and_eq_true, decide_eq_true_eq] at isDigit
  exact isDigit

theorem isBlank_of_isDigit {c : Char} (isDigit : c.isDigit = true) : isBlank c = false := by
  have bounds := toNat_of_isDigit isDigit
  exact isBlank_of_visible (by omega) (by omega)

theorem isDecimalDigit_of_isDigit {c : Char} (isDigit : c.isDigit = true) :
    isDecimalDigit c = true := by
  obtain ⟨least, most⟩ := toNat_of_isDigit isDigit
  simp [isDecimalDigit, decimalDigitRanges, Ranges.contains, least, most]

/-- ASCII digits are the only digits among ASCII characters. -/
theorem isDigit_of_isDecimalDigit {c : Char} (ascii : c.toNat < 128)
    (isDecimal : isDecimalDigit c = true) : c.isDigit = true := by
  obtain ⟨range, member, within⟩ := List.any_eq_true.1 isDecimal
  have beyond : ∀ range ∈ decimalDigitRanges, range = (48, 57) ∨ 128 ≤ range.1 := by decide
  rw [Bool.and_eq_true, decide_eq_true_eq, decide_eq_true_eq] at within
  rcases beyond range member with rfl | notAscii
  · simpa [Char.isDigit, UInt32.le_iff_toNat_le] using within
  · omega

/-- No digit of any script is a blank. -/
theorem isBlank_of_isDecimalDigit {c : Char} (isDecimal : isDecimalDigit c = true) :
    isBlank c = false := by
  obtain ⟨digits, inDigits, isDigit⟩ := List.any_eq_true.1 isDecimal
  rw [← Bool.not_eq_true]
  intro blank
  obtain ⟨blanks, inBlanks, isBlank⟩ := List.any_eq_true.1 blank
  have apart : ∀ digits ∈ decimalDigitRanges, ∀ blanks ∈ blankRanges,
      digits.2 < blanks.1 ∨ blanks.2 < digits.1 := by decide +kernel
  have clash := apart digits inDigits blanks inBlanks
  rw [Bool.and_eq_true, decide_eq_true_eq, decide_eq_true_eq] at isDigit isBlank
  omega

/-- A non-empty text of ASCII digits. -/
structure AreDigits (text : List Char) : Prop where
  notEmpty : text ≠ []
  each : ∀ c ∈ text, c.isDigit = true

theorem areDigits_toDigits (number : Nat) : AreDigits (Nat.toDigits 10 number) where
  notEmpty := Nat.toDigits_ne_nil
  each := fun _ member => Nat.isDigit_of_mem_toDigits (by decide) (by decide) member

theorem toList_toString (number : Nat) : (toString number).toList = Nat.toDigits 10 number := by
  rw [Nat.toString_eq_repr, Nat.repr_eq_ofList_toDigits, String.toList_ofList]

namespace AreDigits

variable {text : List Char}

theorem noBlankEnds (digits : AreDigits text) : NoBlankEnds text where
  first := fun c member => isBlank_of_isDigit (digits.each c (List.mem_of_mem_head? member))
  last := fun c member => isBlank_of_isDigit (digits.each c (List.mem_of_mem_getLast? member))

theorem readDigits? (digits : AreDigits text) :
    Numeral.readDigits? text = some (Nat.ofDigitChars 10 text 0) :=
  if_pos ⟨digits.notEmpty, List.all_eq_true.2 digits.each⟩

theorem readInt? (digits : AreDigits text) (least most : Int) :
    Numeral.readInt? least most text =
      (some (Nat.ofDigitChars 10 text 0 : Int)).filter fun value => least ≤ value ∧ value ≤ most := by
  have value := digits.readDigits?
  unfold Numeral.readInt?
  split
  · exact absurd (digits.each '-' List.mem_cons_self) (by decide)
  · exact absurd (digits.each '+' List.mem_cons_self) (by decide)
  · rw [value]
    rfl

end AreDigits

/-! ## Characters of values -/

/-- A character that numbers, words and times are written with. -/
def IsValueCharacter (c : Char) : Prop :=
  c.isAlphanum = true ∨ c = '-' ∨ c = '.' ∨ c = ':'

instance : DecidablePred IsValueCharacter := fun c =>
  inferInstanceAs (Decidable (c.isAlphanum = true ∨ c = '-' ∨ c = '.' ∨ c = ':'))

theorem toNat_of_isAlphanum {c : Char} (isAlphanum : c.isAlphanum = true) :
    (48 ≤ c.toNat ∧ c.toNat ≤ 57) ∨ (65 ≤ c.toNat ∧ c.toNat ≤ 90) ∨
      (97 ≤ c.toNat ∧ c.toNat ≤ 122) := by
  have classes : ((c.isUpper || c.isLower) || c.isDigit) = true := isAlphanum
  rw [Bool.or_eq_true, Bool.or_eq_true] at classes
  rcases classes with (isUpper | isLower) | isDigit
  · right; left
    exact of_decide_eq_true isUpper
  · right; right
    have bounds := (Bool.and_eq_true _ _).mp isLower
    exact ⟨of_decide_eq_true bounds.1, of_decide_eq_true bounds.2⟩
  · exact .inl (toNat_of_isDigit isDigit)

theorem toNat_of_isValueCharacter {c : Char} (isValue : IsValueCharacter c) :
    (45 ≤ c.toNat ∧ c.toNat ≤ 58) ∨ (65 ≤ c.toNat ∧ c.toNat ≤ 90) ∨
      (97 ≤ c.toNat ∧ c.toNat ≤ 122) := by
  rcases isValue with isAlphanum | rfl | rfl | rfl
  · have codes := toNat_of_isAlphanum isAlphanum
    omega
  · decide
  · decide
  · decide

theorem isValueCharacter_of_isDigit {c : Char} (isDigit : c.isDigit = true) :
    IsValueCharacter c := by
  left
  simp [Char.isAlphanum, isDigit]

theorem IsValueCharacter.isBlank_eq_false {c : Char} (isValue : IsValueCharacter c) :
    isBlank c = false := by
  have bounds := toNat_of_isValueCharacter isValue
  exact isBlank_of_visible (by omega) (by omega)

end FacetedSearch
