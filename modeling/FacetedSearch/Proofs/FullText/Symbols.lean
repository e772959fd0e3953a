import FacetedSearch.FullText.QueryString
import FacetedSearch.Proofs.Engine.Solr.Atoms

/-!
Contract: the characters of a query with the backslashes before them.

Owns:
- `Symbol` and `symbols`: a backslash takes the next character, whatever it is, and a character
  without one is bare;
- `IsComplete`, texts that leave no backslash to what follows, and `symbols_append`;
- `plain_of_bare_mem`: the bare characters of an escaped text are those of its class;
- `alternatives_cons_cons`: clauses are joined from the first one on.

Does not own: what bare characters mean.
-/

namespace FacetedSearch

namespace Solr.Escaped

variable {plain : Char → Prop}

theorem imp {other : Char → Prop} (implies : ∀ c, plain c → other c) {text : List Char}
    (escaped : Escaped plain text) : Escaped other text := by
  induction escaped with
  | nil => exact .nil
  | plain isPlain _ inductionHypothesis => exact .plain (implies _ isPlain) inductionHypothesis
  | escaped c _ inductionHypothesis => exact .escaped c inductionHypothesis

theorem append {left right : List Char} (leftEscaped : Escaped plain left)
    (rightEscaped : Escaped plain right) : Escaped plain (left ++ right) := by
  induction leftEscaped with
  | nil => exact rightEscaped
  | plain isPlain _ inductionHypothesis => exact .plain isPlain inductionHypothesis
  | escaped c _ inductionHypothesis => exact .escaped c inductionHypothesis

end Solr.Escaped

namespace FullText

/-! ## Symbols -/

/-- A character of a query, with or without a backslash before it. -/
inductive Symbol where
  | bare (c : Char)
  | escaped (c : Char)
deriving DecidableEq, Repr

/-- The characters of a text with the backslashes that stand before them. -/
def symbols : List Char → List Symbol
  | '\\' :: c :: rest => .escaped c :: symbols rest
  | c :: rest => .bare c :: symbols rest
  | [] => []

/-- A text that leaves no backslash to what follows. -/
def IsComplete (text : List Char) : Prop :=
  Solr.Escaped (· ≠ '\\') text

theorem symbols_cons {c : Char} (notBackslash : c ≠ '\\') (rest : List Char) :
    symbols (c :: rest) = .bare c :: symbols rest := by
  rw [symbols]
  intro other others isBackslash
  exact absurd isBackslash notBackslash

theorem symbols_append {left : List Char} (complete : IsComplete left) (right : List Char) :
    symbols (left ++ right) = symbols left ++ symbols right := by
  induction complete with
  | nil => rfl
  | plain notBackslash _ inductionHypothesis =>
      rw [List.cons_append, symbols_cons notBackslash, symbols_cons notBackslash,
        inductionHypothesis, List.cons_append]
  | @escaped c rest _ inductionHypothesis =>
      show Symbol.escaped c :: symbols (rest ++ right) =
        Symbol.escaped c :: symbols rest ++ symbols right
      rw [inductionHypothesis, List.cons_append]

/-- The bare characters of an escaped text are those of its class. -/
theorem plain_of_bare_mem {plain : Char → Prop} (notBackslash : ¬ plain '\\') {text : List Char}
    (escaped : Solr.Escaped plain text) {c : Char} (bare : .bare c ∈ symbols text) : plain c := by
  induction escaped with
  | nil => cases bare
  | @plain d rest isPlain _ inductionHypothesis =>
      have differs : d ≠ '\\' := fun same => notBackslash (same ▸ isPlain)
      rw [symbols_cons differs] at bare
      rcases List.mem_cons.1 bare with same | inRest
      · exact Symbol.bare.inj same ▸ isPlain
      · exact inductionHypothesis inRest
  | @escaped d rest _ inductionHypothesis =>
      have inRest : Symbol.bare c ∈ symbols rest := by
        simpa [symbols] using bare
      exact inductionHypothesis inRest

/-! ## Alternatives -/

/-- The word that joins clauses, with its spaces. -/
def joiningWord : List Char :=
  " OR ".toList

theorem alternatives_cons_cons (text next : List Char) (others : List (List Char)) :
    alternatives (text :: next :: others) =
      text ++ (joiningWord ++ alternatives (next :: others)) := by
  rw [alternatives, List.append_assoc]
  · rfl
  · exact List.cons_ne_nil _ _

end FullText

end FacetedSearch
