import FacetedSearch.Proofs.FullText.Symbols

/-!
Contract: a grammar of boosted clauses in two groups, and that it is not ambiguous.

A clause is a field with the wildcard, a token or a text between quotes, and with a boost. In a
token and between quotes a backslash stands before whatever would be read otherwise, and a token
without quotes is none of the words that join clauses.

Owns:
- `Clause` and `Groups`, the derivations, with their texts and with the searches that they say;
- `Groups.eq_of_chars_eq`: a text has at most one derivation;
- `exists_groups_iff`: searches whose texts are put together as they are have a derivation exactly
  if none of them needs a backslash.

Does not own: which texts are written.
-/

namespace FacetedSearch.FullText

open Solr

/-! ## Derivations -/

/-- The words that join clauses or negate them. -/
def operatorWords : List (List Char) :=
  ["AND".toList, "OR".toList, "NOT".toList]

/-- What a clause searches its field for. -/
inductive Sought where
  | anything
  | word (text : List Char)
  | phrase (text : List Char)
deriving DecidableEq

/-- A search of a field with a boost. -/
structure Search where
  field : List Char
  sought : Sought
  boost : Nat
deriving DecidableEq

/-- How a clause says what it searches for. -/
inductive ClauseAtom where
  | anything
  | bare (token : Token) (isTerm : token.chars ∉ operatorWords)
  | quoted (text : QuotedText)

namespace ClauseAtom

def chars : ClauseAtom → List Char
  | .anything => wildcard
  | .bare token _ => token.chars
  | .quoted text => FullText.phrase text.chars

/-- What is searched for, without backslashes. -/
def sought : ClauseAtom → Sought
  | .anything => .anything
  | .bare token _ => .word (unescaped token.chars)
  | .quoted text => .phrase (unescaped text.chars)

end ClauseAtom

/-- A derivation of a clause. -/
structure Clause where
  field : Name
  atom : ClauseAtom
  boost : Nat

namespace Clause

def chars (clause : Clause) : List Char :=
  clause.field.chars ++ ':' :: clause.atom.chars ++ '^' :: Nat.toDigits 10 clause.boost

/-- The search that a clause says. -/
def search (clause : Clause) : Search :=
  ⟨clause.field.chars, clause.atom.sought, clause.boost⟩

end Clause

/-- The text of two groups of clauses. -/
def grouped (left right : List (List Char)) : List Char :=
  '(' :: (alternatives left ++ ')' :: (joiningWord ++ '(' :: (alternatives right ++ [')'])))

/-- A derivation of two groups of clauses. -/
@[ext]
structure Groups where
  left : List Clause
  right : List Clause
  leftFilled : left ≠ []
  rightFilled : right ≠ []

def Groups.chars (groups : Groups) : List Char :=
  grouped (groups.left.map Clause.chars) (groups.right.map Clause.chars)

/-! ## At most one derivation -/

theorem toDigits_injective {left right : Nat}
    (same : Nat.toDigits 10 left = Nat.toDigits 10 right) : left = right := by
  rw [← Nat.ofDigitChars_ten_toDigits (n := left), same, Nat.ofDigitChars_ten_toDigits]

theorem ClauseAtom.append_inj {left right : ClauseAtom} {leftRest rightRest : List Char}
    (same : left.chars ++ '^' :: leftRest = right.chars ++ '^' :: rightRest) :
    left = right ∧ leftRest = rightRest := by
  have stops (rest : List Char) : Stops (fun c => IsPlain c ∨ c = '\\') ('^' :: rest) := by
    apply stops_cons
    rintro (isPlain | isBackslash)
    · exact not_isPlain_of_mem (by decide) isPlain
    · exact absurd isBackslash (by decide)
  -- The first character tells the three kinds of atoms apart.
  cases left with
  | anything =>
      cases right with
      | anything =>
          injection same with _ same
          injection same with _ sameRest
          exact ⟨rfl, sameRest⟩
      | bare token isTerm => exact absurd same.symm (Token.head_ne (by decide) (by decide))
      | quoted text =>
          injection same with sameHead
          exact absurd sameHead (by decide)
  | bare token isTerm =>
      cases right with
      | anything => exact absurd same (Token.head_ne (by decide) (by decide))
      | bare other otherIsTerm =>
          obtain ⟨sameChars, sameRest⟩ := token.escaped.append_inj
            (not_isPlain_of_mem (by decide)) other.escaped (stops _) (stops _) same
          obtain rfl := Token.ext sameChars
          exact ⟨rfl, (List.cons.inj sameRest).2⟩
      | quoted text => exact absurd same (Token.head_ne (by decide) (by decide))
  | quoted text =>
      cases right with
      | anything =>
          injection same with sameHead
          exact absurd sameHead (by decide)
      | bare token isTerm => exact absurd same.symm (Token.head_ne (by decide) (by decide))
      | quoted other =>
          obtain ⟨rfl, sameRest⟩ := QuotedText.append_inj same
          exact ⟨rfl, (List.cons.inj sameRest).2⟩

theorem Clause.append_inj {left right : Clause} {leftRest rightRest : List Char}
    (leftEnds : Ends leftRest) (rightEnds : Ends rightRest)
    (same : left.chars ++ leftRest = right.chars ++ rightRest) :
    left = right ∧ leftRest = rightRest := by
  obtain ⟨leftField, leftAtom, leftBoost⟩ := left
  obtain ⟨rightField, rightAtom, rightBoost⟩ := right
  have stopsAtColon (rest : List Char) : Stops IsPlain (':' :: rest) :=
    stops_cons (not_isPlain_of_mem (by decide))
  have stopsAtEnd {rest : List Char} (ends : Ends rest) :
      Stops (fun c => c.isDigit = true) rest := by
    intro c isFirst
    rcases ends c isFirst with rfl | rfl
    · decide
    · decide
  simp only [chars, List.append_assoc, List.cons_append] at same
  obtain ⟨sameField, behindField⟩ := append_inj_of_each leftField.each rightField.each
    (stopsAtColon _) (stopsAtColon _) same
  obtain ⟨sameAtom, behindAtom⟩ := ClauseAtom.append_inj (List.cons.inj behindField).2
  obtain ⟨sameDigits, sameRest⟩ := append_inj_of_each (areDigits_toDigits leftBoost).each
    (areDigits_toDigits rightBoost).each (stopsAtEnd leftEnds) (stopsAtEnd rightEnds) behindAtom
  exact ⟨by rw [Name.ext sameField, sameAtom, toDigits_injective sameDigits], sameRest⟩

/-- A group ends at its closing parenthesis. -/
theorem alternatives_append_inj {left right : List Clause} (leftFilled : left ≠ [])
    (rightFilled : right ≠ []) {leftRest rightRest : List Char}
    (same : alternatives (left.map Clause.chars) ++ ')' :: leftRest =
      alternatives (right.map Clause.chars) ++ ')' :: rightRest) :
    left = right ∧ leftRest = rightRest := by
  have endsAtGroup (rest : List Char) : Ends (')' :: rest) := by
    intro c isFirst
    exact .inr (Option.some.inj isFirst).symm
  have endsAtJoin (rest : List Char) : Ends (joiningWord ++ rest) := by
    intro c isFirst
    exact .inl (Option.some.inj isFirst).symm
  induction left generalizing right with
  | nil => exact absurd rfl leftFilled
  | cons clause left inductionHypothesis =>
      obtain ⟨other, right, rfl⟩ := List.exists_cons_of_ne_nil rightFilled
      match left, right with
      | [], [] =>
          obtain ⟨sameClause, behind⟩ := Clause.append_inj (endsAtGroup _) (endsAtGroup _) same
          exact ⟨by rw [sameClause], (List.cons.inj behind).2⟩
      | [], next :: right =>
          simp only [List.map_cons, alternatives_cons_cons, List.append_assoc] at same
          obtain ⟨-, behind⟩ := Clause.append_inj (endsAtGroup _) (endsAtJoin _) same
          injection behind with sameHead
          exact absurd sameHead (by decide)
      | next :: left, [] =>
          simp only [List.map_cons, alternatives_cons_cons, List.append_assoc] at same
          obtain ⟨-, behind⟩ := Clause.append_inj (endsAtJoin _) (endsAtGroup _) same
          injection behind with sameHead
          exact absurd sameHead (by decide)
      | next :: left, nextRight :: right =>
          simp only [List.map_cons, alternatives_cons_cons, List.append_assoc] at same
          obtain ⟨sameClause, behind⟩ := Clause.append_inj (endsAtJoin _) (endsAtJoin _) same
          rw [← List.map_cons, ← List.map_cons] at behind
          obtain ⟨sameOthers, sameRest⟩ := inductionHypothesis (List.cons_ne_nil _ _)
            (List.cons_ne_nil _ _) (List.append_cancel_left behind)
          exact ⟨by rw [sameClause, sameOthers], sameRest⟩

namespace Groups

/-- A text has at most one derivation. -/
theorem eq_of_chars_eq {groups other : Groups} (same : groups.chars = other.chars) :
    groups = other := by
  obtain ⟨sameLeft, behind⟩ := alternatives_append_inj groups.leftFilled other.leftFilled
    (List.cons.inj same).2
  obtain ⟨sameRight, -⟩ := alternatives_append_inj groups.rightFilled other.rightFilled
    (List.cons.inj (List.append_cancel_left behind)).2
  exact Groups.ext sameLeft sameRight

end Groups

/-! ## Texts without backslashes -/

/-- What is searched for, as it is. -/
def Sought.chars : Sought → List Char
  | .anything => wildcard
  | .word text => text
  | .phrase text => FullText.phrase text

/-- Whether this says it without backslashes. -/
def Sought.IsVerbatim : Sought → Prop
  | .anything => True
  | .word text => text ≠ [] ∧ (∀ c ∈ text, IsPlain c) ∧ text ∉ operatorWords
  | .phrase text => ∀ c ∈ text, IsQuotable c

def Search.chars (search : Search) : List Char :=
  search.field ++ ':' :: search.sought.chars ++ '^' :: Nat.toDigits 10 search.boost

theorem isQuotable_of_isPlain {c : Char} (isPlain : IsPlain c) : IsQuotable c :=
  isQuotable_of_not_mem isPlain.1

/-- What may stand as it is has a derivation. -/
theorem exists_clause {search : Search} (named : ∀ c ∈ search.field, IsPlain c)
    (verbatim : search.sought.IsVerbatim) :
    ∃ clause : Clause, clause.search = search ∧ clause.chars = search.chars := by
  obtain ⟨field, sought, boost⟩ := search
  cases sought with
  | anything => exact ⟨⟨⟨field, named⟩, .anything, boost⟩, rfl, rfl⟩
  | word word =>
      obtain ⟨notEmpty, each, isTerm⟩ := verbatim
      have same : unescaped word = word :=
        unescaped_eq_self fun c member => isQuotable_of_isPlain (each c member)
      refine ⟨⟨⟨field, named⟩, .bare ⟨word, notEmpty, escaped_of_each each⟩ isTerm, boost⟩, ?_, rfl⟩
      rw [Clause.search, ClauseAtom.sought, same]
  | phrase text =>
      refine ⟨⟨⟨field, named⟩, .quoted ⟨text, escaped_of_each verbatim⟩, boost⟩, ?_, rfl⟩
      rw [Clause.search, ClauseAtom.sought, unescaped_eq_self verbatim]

theorem exists_clauses {searches : List Search}
    (named : ∀ search ∈ searches, ∀ c ∈ search.field, IsPlain c)
    (verbatim : ∀ search ∈ searches, search.sought.IsVerbatim) :
    ∃ clauses : List Clause, clauses.map Clause.search = searches ∧
      clauses.map Clause.chars = searches.map Search.chars := by
  induction searches with
  | nil => exact ⟨[], rfl, rfl⟩
  | cons search rest inductionHypothesis =>
      obtain ⟨firstNamed, restNamed⟩ := List.forall_mem_cons.1 named
      obtain ⟨firstVerbatim, restVerbatim⟩ := List.forall_mem_cons.1 verbatim
      obtain ⟨clause, sameSearch, sameChars⟩ := exists_clause firstNamed firstVerbatim
      obtain ⟨clauses, restSearches, restChars⟩ := inductionHypothesis restNamed restVerbatim
      exact ⟨clause :: clauses, by rw [List.map_cons, sameSearch, restSearches],
        by rw [List.map_cons, List.map_cons, sameChars, restChars]⟩

/-- Backslashes make a text longer. -/
theorem length_unescaped {plain : Char → Prop} {text : List Char} (escaped : Escaped plain text)
    (notBackslash : ¬ plain '\\') :
    (unescaped text).length ≤ text.length ∧
      ((unescaped text).length = text.length → ∀ c ∈ text, plain c) := by
  induction escaped with
  | nil => exact ⟨Nat.le_refl _, fun _ => List.forall_mem_nil _⟩
  | @plain c rest isPlain _ inductionHypothesis =>
      have differs : c ≠ '\\' := fun same => notBackslash (same ▸ isPlain)
      rw [unescaped_cons differs, List.length_cons, List.length_cons]
      obtain ⟨le, each⟩ := inductionHypothesis
      exact ⟨Nat.succ_le_succ le,
        fun same => List.forall_mem_cons.2 ⟨isPlain, each (Nat.succ.inj same)⟩⟩
  | @escaped c rest _ inductionHypothesis =>
      have shorter := inductionHypothesis.1
      rw [unescaped]
      simp only [List.length_cons]
      exact ⟨by omega, fun same => absurd same (by omega)⟩

namespace Clause

/-- A clause is as long as what it says only if it says this without backslashes. -/
theorem length_search (clause : Clause) :
    clause.search.chars.length ≤ clause.chars.length ∧
      (clause.search.chars.length = clause.chars.length → clause.search.sought.IsVerbatim) := by
  obtain ⟨field, atom, boost⟩ := clause
  simp only [search, Search.chars, chars, List.length_append, List.length_cons]
  cases atom with
  | anything => exact ⟨Nat.le_refl _, fun _ => trivial⟩
  | bare token isTerm =>
      obtain ⟨le, each⟩ := length_unescaped token.escaped (not_isPlain_of_mem (by decide))
      simp only [ClauseAtom.sought, Sought.chars, ClauseAtom.chars]
      refine ⟨by omega, fun same => ?_⟩
      have plain := each (by omega)
      have verbatim : unescaped token.chars = token.chars :=
        unescaped_eq_self fun c member => isQuotable_of_isPlain (plain c member)
      rw [verbatim]
      exact ⟨token.notEmpty, plain, isTerm⟩
  | quoted text =>
      obtain ⟨le, each⟩ := length_unescaped text.escaped fun isQuotable => isQuotable.2 rfl
      simp only [ClauseAtom.sought, Sought.chars, ClauseAtom.chars, FullText.phrase,
        List.length_append, List.length_cons]
      refine ⟨by omega, fun same => ?_⟩
      have quotable := each (by omega)
      rw [unescaped_eq_self quotable]
      exact quotable

theorem length_alternatives (clauses : List Clause) :
    (alternatives (clauses.map fun clause => clause.search.chars)).length ≤
        (alternatives (clauses.map chars)).length ∧
      ((alternatives (clauses.map fun clause => clause.search.chars)).length =
          (alternatives (clauses.map chars)).length →
        ∀ clause ∈ clauses, clause.search.sought.IsVerbatim) := by
  induction clauses with
  | nil => exact ⟨Nat.le_refl _, fun _ => List.forall_mem_nil _⟩
  | cons clause rest inductionHypothesis =>
      obtain ⟨firstLe, firstVerbatim⟩ := clause.length_search
      cases rest with
      | nil => exact ⟨firstLe, fun same => List.forall_mem_singleton.2 (firstVerbatim same)⟩
      | cons next others =>
          obtain ⟨restLe, restVerbatim⟩ := inductionHypothesis
          simp only [List.map_cons, alternatives_cons_cons, List.length_append]
            at restLe restVerbatim ⊢
          exact ⟨by omega, fun same =>
            List.forall_mem_cons.2 ⟨firstVerbatim (by omega), restVerbatim (by omega)⟩⟩

end Clause

/-- The text of some searches as they are is that of clauses which say these searches exactly if
none of them needs a backslash. -/
theorem exists_groups_iff {left right : List Search} (leftFilled : left ≠ [])
    (rightFilled : right ≠ []) (named : ∀ search ∈ left ++ right, ∀ c ∈ search.field, IsPlain c) :
    (∃ groups : Groups,
        groups.chars = grouped (left.map Search.chars) (right.map Search.chars) ∧
        groups.left.map Clause.search = left ∧ groups.right.map Clause.search = right) ↔
      ∀ search ∈ left ++ right, search.sought.IsVerbatim := by
  constructor
  · rintro ⟨groups, sameChars, rfl, rfl⟩
    have sizes := congrArg List.length sameChars
    obtain ⟨leftLe, leftVerbatim⟩ := Clause.length_alternatives groups.left
    obtain ⟨rightLe, rightVerbatim⟩ := Clause.length_alternatives groups.right
    simp only [Groups.chars, grouped, List.map_map, Function.comp_def, List.length_append,
      List.length_cons] at sizes
    rw [← List.map_append]
    refine List.forall_mem_map.2 fun clause member => ?_
    rcases List.mem_append.1 member with inLeft | inRight
    · exact leftVerbatim (by omega) clause inLeft
    · exact rightVerbatim (by omega) clause inRight
  · intro verbatim
    obtain ⟨leftNamed, rightNamed⟩ := List.forall_mem_append.1 named
    obtain ⟨leftEach, rightEach⟩ := List.forall_mem_append.1 verbatim
    obtain ⟨leftClauses, leftSay, leftChars⟩ := exists_clauses leftNamed leftEach
    obtain ⟨rightClauses, rightSay, rightChars⟩ := exists_clauses rightNamed rightEach
    refine ⟨⟨leftClauses, rightClauses, ?_, ?_⟩, ?_, leftSay, rightSay⟩
    · rintro rfl
      exact leftFilled leftSay.symm
    · rintro rfl
      exact rightFilled rightSay.symm
    · rw [Groups.chars, leftChars, rightChars]

end FacetedSearch.FullText
