/-!
Contract: cutting texts at characters and at inner texts.

Owns:
- `stripStart?`, the rest of a text after a given beginning;
- `cutAtFirst?`, the parts before and after the first occurrence of an inner text;
- `pieces`, the parts between the occurrences of one character.

Does not own: patterns with alternatives.
-/

namespace FacetedSearch.Text

/-- What follows `start` in a text that begins with it. -/
def stripStart? : (start text : List Char) → Option (List Char)
  | [], text => some text
  | _ :: _, [] => none
  | expected :: start, c :: text => if expected = c then stripStart? start text else none

theorem eq_append_of_stripStart? {start text rest : List Char}
    (stripped : stripStart? start text = some rest) : text = start ++ rest := by
  induction start generalizing text with
  | nil => simpa [stripStart?] using stripped
  | cons expected start inductionHypothesis =>
      cases text with
      | nil => simp [stripStart?] at stripped
      | cons c text =>
          by_cases same : expected = c
          · subst same
            simp only [stripStart?, if_true] at stripped
            simp [inductionHypothesis stripped]
          · simp [stripStart?, same] at stripped

theorem stripStart?_append (start rest : List Char) :
    stripStart? start (start ++ rest) = some rest := by
  induction start with
  | nil => rfl
  | cons c start inductionHypothesis =>
      rw [List.cons_append, stripStart?, if_pos rfl, inductionHypothesis]

/-- The parts around the first occurrence of `inner`. -/
def cutAtFirst? (inner : List Char) : List Char → Option (List Char × List Char)
  | [] => (stripStart? inner []).map fun after => ([], after)
  | c :: text =>
      match stripStart? inner (c :: text) with
      | some after => some ([], after)
      | none => (cutAtFirst? inner text).map fun parts => (c :: parts.1, parts.2)

theorem eq_append_of_cutAtFirst? {inner text before after : List Char}
    (cut : cutAtFirst? inner text = some (before, after)) : text = before ++ inner ++ after := by
  induction text generalizing before with
  | nil =>
      rw [cutAtFirst?, Option.map_eq_some_iff] at cut
      obtain ⟨rest, stripped, same⟩ := cut
      injection same with beforeEq afterEq
      subst beforeEq afterEq
      simpa using eq_append_of_stripStart? stripped
  | cons c text inductionHypothesis =>
      rw [cutAtFirst?] at cut
      split at cut
      · rename_i rest stripped
        injection cut with same
        injection same with beforeEq afterEq
        subst beforeEq afterEq
        simpa using eq_append_of_stripStart? stripped
      · rw [Option.map_eq_some_iff] at cut
        obtain ⟨parts, inRest, same⟩ := cut
        injection same with beforeEq afterEq
        subst beforeEq afterEq
        simp [inductionHypothesis inRest]

/-- The parts of a text between the occurrences of one character; there is at least one part. -/
def pieces (separator : Char) : List Char → List (List Char)
  | [] => [[]]
  | c :: text =>
      if c = separator then [] :: pieces separator text
      else
        match pieces separator text with
        | [] => [[c]]
        | piece :: others => (c :: piece) :: others

end FacetedSearch.Text
