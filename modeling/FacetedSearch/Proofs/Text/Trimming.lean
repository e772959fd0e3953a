import FacetedSearch.Proofs.Text.Characters

/-!
Contract: texts without blanks at their ends, and what the removal of blanks leaves.

Owns:
- `NoBlankEnds.append` and `NoBlankEnds.around`: how texts without blanks at their ends are put
  together;
- `exists_trimBlanks`: a text is its trimmed form with blanks around it;
- `noBlankEnds_trimBlanks`: the trimmed form has no blanks at its ends;
- `trimBlanks_around`: these two facts determine the trimmed form;
- `eq_of_blanks_around`: and the blanks around it, if it is not empty.

Does not own: blanks inside a text.
-/

namespace FacetedSearch

open Text

/-! ## Texts without blanks at their ends -/

theorem NoBlankEnds.of_forall {text : List Char} (visible : ∀ c ∈ text, isBlank c = false) :
    NoBlankEnds text where
  first := fun c member => visible c (List.mem_of_mem_head? member)
  last := fun c member => visible c (List.mem_of_mem_getLast? member)

theorem NoBlankEnds.append {left right : List Char} (leftEnds : NoBlankEnds left)
    (rightEnds : NoBlankEnds right) : NoBlankEnds (left ++ right) where
  first := by
    cases left with
    | nil => exact rightEnds.first
    | cons c rest => exact leftEnds.first
  last := by
    intro c member
    rw [List.getLast?_append] at member
    cases isLast : right.getLast? with
    | none =>
        rw [isLast, Option.none_or] at member
        exact leftEnds.last c member
    | some last =>
        rw [isLast, Option.some_or] at member
        exact rightEnds.last c (isLast ▸ member)

/-- Blanks between two texts are not at the ends. -/
theorem NoBlankEnds.around {front back : List Char} (frontEnds : NoBlankEnds front)
    (someFront : front ≠ []) (middle : List Char) (backEnds : NoBlankEnds back)
    (someBack : back ≠ []) : NoBlankEnds (front ++ (middle ++ back)) where
  first := by
    intro c member
    obtain ⟨first, rest, rfl⟩ := List.exists_cons_of_ne_nil someFront
    exact frontEnds.first c member
  last := by
    intro c member
    obtain ⟨rest, last, rfl⟩ := (List.eq_nil_or_concat back).resolve_left someBack
    rw [List.concat_eq_append, ← List.append_assoc, ← List.append_assoc, List.getLast?_concat]
      at member
    exact backEnds.last c (by rwa [List.concat_eq_append, List.getLast?_concat])

/-! ## Trailing blanks -/

theorem exists_dropTrailingBlanks (text : List Char) :
    ∃ back, (∀ c ∈ back, isBlank c = true) ∧ text = dropTrailingBlanks text ++ back := by
  induction text with
  | nil => exact ⟨[], by simp, rfl⟩
  | cons c rest inductionHypothesis =>
      obtain ⟨back, blank, split⟩ := inductionHypothesis
      rw [dropTrailingBlanks]
      split
      · rename_i noneKept
        rw [noneKept, List.nil_append] at split
        by_cases isBlank : isBlank c = true
        · rw [if_pos isBlank]
          exact ⟨c :: rest, List.forall_mem_cons.2 ⟨isBlank, split ▸ blank⟩, rfl⟩
        · rw [if_neg isBlank]
          exact ⟨rest, split ▸ blank, rfl⟩
      · rename_i kept _
        exact ⟨back, blank, by rw [List.cons_append, ← split]⟩

theorem getLast?_dropTrailingBlanks (text : List Char) :
    ∀ c ∈ (dropTrailingBlanks text).getLast?, isBlank c = false := by
  induction text with
  | nil => simp [dropTrailingBlanks]
  | cons c rest inductionHypothesis =>
      rw [dropTrailingBlanks]
      split
      · by_cases isBlank : isBlank c = true
        · simp [isBlank]
        · simp [isBlank]
      · rename_i kept someKept
        rw [List.getLast?_cons_of_ne_nil someKept]
        exact inductionHypothesis

theorem dropTrailingBlanks_append {text back : List Char}
    (last : ∀ c ∈ text.getLast?, isBlank c = false) (blank : ∀ c ∈ back, isBlank c = true) :
    dropTrailingBlanks (text ++ back) = text := by
  have noneLeft : dropTrailingBlanks back = [] := by
    induction back with
    | nil => rfl
    | cons c rest inductionHypothesis =>
        rw [List.forall_mem_cons] at blank
        simp [dropTrailingBlanks, inductionHypothesis blank.2, blank.1]
  induction text with
  | nil => exact noneLeft
  | cons c rest inductionHypothesis =>
      rw [List.cons_append, dropTrailingBlanks]
      cases rest with
      | nil => simp [noneLeft, last c (by simp)]
      | cons next others => rw [inductionHypothesis (by simpa using last)]

/-! ## Blanks at both ends -/

/-- A text is what is left of it with blanks around. -/
theorem exists_trimBlanks (text : List Char) :
    ∃ front back, (∀ c ∈ front, isBlank c = true) ∧ (∀ c ∈ back, isBlank c = true) ∧
      text = front ++ trimBlanks text ++ back := by
  obtain ⟨back, backBlank, split⟩ := exists_dropTrailingBlanks (text.dropWhile isBlank)
  refine ⟨text.takeWhile isBlank, back, List.all_eq_true.1 List.all_takeWhile, backBlank, ?_⟩
  rw [List.append_assoc, trimBlanks, ← split, List.takeWhile_append_dropWhile]

theorem mem_of_mem_trimBlanks {text : List Char} {c : Char} (member : c ∈ trimBlanks text) :
    c ∈ text := by
  obtain ⟨front, back, -, -, split⟩ := exists_trimBlanks text
  rw [split]
  simp [member]

theorem noBlankEnds_trimBlanks (text : List Char) : NoBlankEnds (trimBlanks text) where
  first := by
    intro c member
    obtain ⟨back, -, split⟩ := exists_dropTrailingBlanks (text.dropWhile isBlank)
    have isHead : (text.dropWhile isBlank).head? = some c := by
      rw [split, List.head?_append]
      exact congrArg (Option.or · back.head?) member
    have notBlank := List.head?_dropWhile_not isBlank text
    rw [isHead] at notBlank
    simpa using notBlank
  last := getLast?_dropTrailingBlanks _

/-- A text without blanks at its ends is what is left of it with blanks around. -/
theorem trimBlanks_around {front inner back : List Char}
    (frontBlank : ∀ c ∈ front, isBlank c = true) (backBlank : ∀ c ∈ back, isBlank c = true)
    (ends : NoBlankEnds inner) : trimBlanks (front ++ inner ++ back) = inner := by
  rw [trimBlanks, List.append_assoc, List.dropWhile_append_of_pos frontBlank]
  cases inner with
  | nil =>
      have allDropped : (back ++ []).dropWhile isBlank = [] :=
        List.dropWhile_append_of_pos backBlank
      rw [List.append_nil] at allDropped
      rw [List.nil_append, allDropped]
      rfl
  | cons c rest =>
      rw [List.cons_append, List.dropWhile_cons_of_neg (by simp [ends.first c rfl])]
      exact dropTrailingBlanks_append ends.last backBlank

/-- The blanks around a text without blanks at its ends are determined as well, unless it is
empty. -/
theorem eq_of_blanks_around {front inner back otherFront otherInner otherBack : List Char}
    (frontBlank : ∀ c ∈ front, isBlank c = true) (backBlank : ∀ c ∈ back, isBlank c = true)
    (otherFrontBlank : ∀ c ∈ otherFront, isBlank c = true)
    (otherBackBlank : ∀ c ∈ otherBack, isBlank c = true) (ends : NoBlankEnds inner)
    (otherEnds : NoBlankEnds otherInner) (someInner : inner ≠ [])
    (same : front ++ inner ++ back = otherFront ++ otherInner ++ otherBack) :
    front = otherFront ∧ inner = otherInner ∧ back = otherBack := by
  have sameInner : inner = otherInner := by
    rw [← trimBlanks_around frontBlank backBlank ends, same,
      trimBlanks_around otherFrontBlank otherBackBlank otherEnds]
  subst sameInner
  have takesFront {blanks : List Char} (allBlank : ∀ c ∈ blanks, isBlank c = true)
      (rest : List Char) : (blanks ++ inner ++ rest).takeWhile isBlank = blanks := by
    obtain ⟨c, others, rfl⟩ := List.exists_cons_of_ne_nil someInner
    rw [List.append_assoc, List.takeWhile_append_of_pos allBlank, List.cons_append,
      List.takeWhile_cons_of_neg (by simp [ends.first c rfl]), List.append_nil]
  have sameFront : front = otherFront := by
    rw [← takesFront frontBlank back, same, takesFront otherFrontBlank otherBack]
  subst sameFront
  rw [List.append_assoc, List.append_assoc] at same
  exact ⟨rfl, rfl, List.append_cancel_left (List.append_cancel_left same)⟩

end FacetedSearch
