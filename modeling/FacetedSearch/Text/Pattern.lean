/-!
Contract: small text patterns with ordered choice.

Owns:
- `Pattern`, sequences, choices and repetitions of character classes;
- `Pattern.Matches`, the texts that a pattern describes;
- `Pattern.remainders`, every rest that is left when a beginning is matched, in order of
  preference: the first branch of a choice before the second, longer repetitions before
  shorter ones;
- `mem_remainders`: these are exactly the rests after texts that the pattern describes.

Does not own: captures. A caller that needs the matched beginning compares lengths.
-/

namespace FacetedSearch.Text

/-- Descriptions of the beginnings of texts. -/
inductive Pattern where
  /-- The empty text. -/
  | nothing
  /-- One character of a class. -/
  | one (accepts : Char → Bool)
  /-- Any number of characters of a class. -/
  | many (accepts : Char → Bool)
  /-- One pattern and then another. -/
  | sequence (first second : Pattern)
  /-- Either pattern, the first preferred. -/
  | choice (preferred other : Pattern)

namespace Pattern

/-- The texts that a pattern describes. -/
inductive Matches : Pattern → List Char → Prop where
  | nothing : Matches .nothing []
  | one {accepts : Char → Bool} {c : Char} (accepted : accepts c = true) :
      Matches (.one accepts) [c]
  | many {accepts : Char → Bool} {text : List Char}
      (accepted : ∀ c ∈ text, accepts c = true) : Matches (.many accepts) text
  | sequence {first second : Pattern} {left right : List Char}
      (leftMatches : Matches first left) (rightMatches : Matches second right) :
      Matches (.sequence first second) (left ++ right)
  | preferred {preferred other : Pattern} {text : List Char}
      (textMatches : Matches preferred text) : Matches (.choice preferred other) text
  | other {preferred other : Pattern} {text : List Char}
      (textMatches : Matches other text) : Matches (.choice preferred other) text

/-- The rests after the characters of a class at the start of a text, shortest rest first. -/
def remaindersOfMany (accepts : Char → Bool) : List Char → List (List Char)
  | [] => [[]]
  | c :: text =>
      if accepts c then remaindersOfMany accepts text ++ [c :: text] else [c :: text]

/-- Every rest after a matched beginning, in order of preference. -/
def remainders : Pattern → List Char → List (List Char)
  | .nothing, text => [text]
  | .one _, [] => []
  | .one accepts, c :: text => if accepts c then [text] else []
  | .many accepts, text => remaindersOfMany accepts text
  | .sequence first second, text => (first.remainders text).flatMap second.remainders
  | .choice preferred other, text => preferred.remainders text ++ other.remainders text

theorem mem_remaindersOfMany {accepts : Char → Bool} {text rest : List Char} :
    rest ∈ remaindersOfMany accepts text ↔
      ∃ front, (∀ c ∈ front, accepts c = true) ∧ text = front ++ rest := by
  induction text with
  | nil =>
      constructor
      · intro member
        rw [remaindersOfMany, List.mem_singleton] at member
        subst member
        exact ⟨[], by simp, rfl⟩
      · rintro ⟨front, _, split⟩
        have restEmpty := (List.append_eq_nil_iff.1 split.symm).2
        simp [remaindersOfMany, restEmpty]
  | cons c text inductionHypothesis =>
      rw [remaindersOfMany]
      by_cases accepted : accepts c = true
      · rw [if_pos accepted, List.mem_append, inductionHypothesis, List.mem_singleton]
        constructor
        · rintro (⟨front, allAccepted, split⟩ | whole)
          · exact ⟨c :: front, by simpa [accepted] using allAccepted, by simp [split]⟩
          · exact ⟨[], by simp, by simp [whole]⟩
        · rintro ⟨front, allAccepted, split⟩
          cases front with
          | nil => exact .inr split.symm
          | cons first front =>
              injection split with same split
              exact .inl ⟨front, fun other member => allAccepted other (.tail _ member), split⟩
      · rw [if_neg accepted, List.mem_singleton]
        constructor
        · intro whole
          exact ⟨[], by simp, by simp [whole]⟩
        · rintro ⟨front, allAccepted, split⟩
          cases front with
          | nil => exact split.symm
          | cons first front =>
              injection split with same split
              exact absurd (same ▸ allAccepted first (.head _)) accepted

/-- A rest is left exactly when what comes before it is described by the pattern. -/
theorem mem_remainders {pattern : Pattern} {text rest : List Char} :
    rest ∈ pattern.remainders text ↔ ∃ front, Matches pattern front ∧ text = front ++ rest := by
  induction pattern generalizing text rest with
  | nothing =>
      rw [remainders, List.mem_singleton]
      constructor
      · intro whole
        exact ⟨[], .nothing, by simp [whole]⟩
      · rintro ⟨front, frontMatches, split⟩
        cases frontMatches
        exact split.symm
  | one accepts =>
      constructor
      · intro member
        cases text with
        | nil => simp [remainders] at member
        | cons c text =>
            rw [remainders] at member
            by_cases accepted : accepts c = true
            · rw [if_pos accepted, List.mem_singleton] at member
              exact ⟨[c], .one accepted, by simp [member]⟩
            · simp [accepted] at member
      · rintro ⟨front, frontMatches, split⟩
        cases frontMatches with
        | one accepted => simp [split, remainders, accepted]
  | many accepts =>
      rw [remainders, mem_remaindersOfMany]
      constructor
      · rintro ⟨front, allAccepted, split⟩
        exact ⟨front, .many allAccepted, split⟩
      · rintro ⟨front, frontMatches, split⟩
        cases frontMatches with
        | many allAccepted => exact ⟨front, allAccepted, split⟩
  | sequence first second firstIff secondIff =>
      rw [remainders, List.mem_flatMap]
      constructor
      · rintro ⟨middle, inFirst, inSecond⟩
        obtain ⟨left, leftMatches, textSplit⟩ := firstIff.1 inFirst
        obtain ⟨right, rightMatches, middleSplit⟩ := secondIff.1 inSecond
        exact ⟨left ++ right, .sequence leftMatches rightMatches,
          by simp [textSplit, middleSplit]⟩
      · rintro ⟨front, frontMatches, split⟩
        cases frontMatches with
        | @sequence _ _ left right leftMatches rightMatches =>
            exact ⟨right ++ rest, firstIff.2 ⟨left, leftMatches, by simp [split]⟩,
              secondIff.2 ⟨right, rightMatches, rfl⟩⟩
  | choice preferred other preferredIff otherIff =>
      rw [remainders, List.mem_append, preferredIff, otherIff]
      constructor
      · rintro (⟨front, frontMatches, split⟩ | ⟨front, frontMatches, split⟩)
        · exact ⟨front, .preferred frontMatches, split⟩
        · exact ⟨front, .other frontMatches, split⟩
      · rintro ⟨front, frontMatches, split⟩
        cases frontMatches with
        | preferred textMatches => exact .inl ⟨front, textMatches, split⟩
        | other textMatches => exact .inr ⟨front, textMatches, split⟩

def char (expected : Char) : Pattern :=
  .one fun c => c == expected

def literal : List Char → Pattern
  | [] => .nothing
  | c :: text => .sequence (.char c) (literal text)

def inOrder : List Pattern → Pattern
  | [] => .nothing
  | first :: rest => .sequence first (inOrder rest)

/-- The pattern or the empty text, the pattern preferred. -/
def optional (pattern : Pattern) : Pattern :=
  .choice pattern .nothing

def oneOrMore (accepts : Char → Bool) : Pattern :=
  .sequence (.one accepts) (.many accepts)

end Pattern

end FacetedSearch.Text
