import FacetedSearch.Proofs.FullText.Clauses

/-!
Contract: balanced quotes and parentheses of queries.

Owns:
- `Nesting`, a place of a text by its open parentheses and quotes, and `IsBalanced`, which does not
  count what stands behind a backslash, nor parentheses between quotes;
- `IsSteady`, texts that are balanced wherever they stand outside quotes, with how they are put
  together;
- `Groups.isBalanced_chars`: whatever has a derivation is balanced.

Does not own: texts without a derivation.
-/

namespace FacetedSearch.FullText

open Solr

/-- How many parentheses are open at a place of a text, and whether it is inside quotes. -/
structure Nesting where
  depth : Nat
  quoted : Bool
deriving DecidableEq

/-- The nesting behind a symbol, unless it closes what is not open. -/
def Nesting.after? (nesting : Nesting) (symbol : Symbol) : Option Nesting :=
  if symbol = .bare '\x22' then some { nesting with quoted := !nesting.quoted }
  else if nesting.quoted then some nesting
  else if symbol = .bare '(' then some { nesting with depth := nesting.depth + 1 }
  else if symbol = .bare ')' then
    if nesting.depth = 0 then none else some { nesting with depth := nesting.depth - 1 }
  else some nesting

/-- The nesting behind a text. -/
def nestingAfter? (nesting : Nesting) (text : List Char) : Option Nesting :=
  (symbols text).foldlM Nesting.after? nesting

/-- Whether quotes and parentheses without a backslash are balanced. -/
def IsBalanced (text : List Char) : Prop :=
  nestingAfter? ⟨0, false⟩ text = some ⟨0, false⟩

instance (text : List Char) : Decidable (IsBalanced text) :=
  inferInstanceAs (Decidable (nestingAfter? _ text = _))

theorem nestingAfter?_append {left : List Char} (complete : IsComplete left) (nesting : Nesting)
    (right : List Char) :
    nestingAfter? nesting (left ++ right) =
      (nestingAfter? nesting left).bind fun between => nestingAfter? between right := by
  rw [nestingAfter?, symbols_append complete, List.foldlM_append]
  rfl

/-- A text whose bare characters change nothing leaves the nesting as it is. -/
theorem nestingAfter?_of_escaped {plain : Char → Prop} (notBackslash : ¬ plain '\\')
    {nesting : Nesting} (unchanged : ∀ c, plain c → nesting.after? (.bare c) = some nesting)
    {text : List Char} (escaped : Escaped plain text) :
    nestingAfter? nesting text = some nesting := by
  have each : ∀ symbol ∈ symbols text, nesting.after? symbol = some nesting := by
    intro symbol member
    cases symbol with
    | bare c => exact unchanged c (plain_of_bare_mem notBackslash escaped member)
    | escaped c => simp [Nesting.after?]
  rw [nestingAfter?]
  generalize symbols text = list at each
  induction list with
  | nil => rfl
  | cons symbol rest inductionHypothesis =>
      obtain ⟨first, others⟩ := List.forall_mem_cons.1 each
      rw [List.foldlM_cons, first]
      exact inductionHypothesis others

/-- A text that is balanced wherever it stands outside quotes. -/
structure IsSteady (text : List Char) : Prop where
  complete : IsComplete text
  steady : ∀ depth, nestingAfter? ⟨depth, false⟩ text = some ⟨depth, false⟩

/-- A character that neither opens nor closes anything, and is no backslash. -/
def IsInert (c : Char) : Prop :=
  c ≠ '\x22' ∧ c ≠ '(' ∧ c ≠ ')' ∧ c ≠ '\\'

instance : DecidablePred IsInert := fun c =>
  inferInstanceAs (Decidable (c ≠ '\x22' ∧ c ≠ '(' ∧ c ≠ ')' ∧ c ≠ '\\'))

/-- The characters of a class without quotes, parentheses and the backslash are inert. -/
theorem isInert_of (holds : Char → Prop) {c : Char} (member : holds c)
    (quote : ¬ holds '\x22') (opening : ¬ holds '(') (closing : ¬ holds ')')
    (backslash : ¬ holds '\\') : IsInert c :=
  ⟨fun same => quote (same ▸ member), fun same => opening (same ▸ member),
    fun same => closing (same ▸ member), fun same => backslash (same ▸ member)⟩

theorem isInert_of_isPlain {c : Char} (isPlain : IsPlain c) : IsInert c :=
  isInert_of IsPlain isPlain (by decide) (by decide) (by decide) (by decide)

theorem isInert_of_isDigit {c : Char} (isDigit : c.isDigit = true) : IsInert c :=
  isInert_of (fun d => d.isDigit = true) isDigit (by decide) (by decide) (by decide) (by decide)

namespace IsSteady

theorem of_escaped {text : List Char} (escaped : Escaped IsInert text) : IsSteady text where
  complete := escaped.imp fun c isInert => isInert.2.2.2
  steady := fun depth => nestingAfter?_of_escaped (by decide)
    (fun c isInert => by simp [Nesting.after?, isInert.1, isInert.2.1, isInert.2.2.1]) escaped

theorem of_each {text : List Char} (each : ∀ c ∈ text, IsInert c) : IsSteady text :=
  of_escaped (escaped_of_each each)

theorem append {left right : List Char} (leftSteady : IsSteady left)
    (rightSteady : IsSteady right) : IsSteady (left ++ right) where
  complete := leftSteady.complete.append rightSteady.complete
  steady := fun depth => by
    rw [nestingAfter?_append leftSteady.complete, leftSteady.steady, Option.bind_some,
      rightSteady.steady]

theorem parenthesized {inner : List Char} (innerSteady : IsSteady inner) :
    IsSteady ('(' :: (inner ++ [')'])) where
  complete := .plain (by decide) (innerSteady.complete.append (.plain (by decide) .nil))
  steady := fun depth => by
    have opened : nestingAfter? ⟨depth, false⟩ ['('] = some ⟨depth + 1, false⟩ := rfl
    have closed : nestingAfter? ⟨depth + 1, false⟩ [')'] = some ⟨depth, false⟩ := rfl
    rw [← List.singleton_append, nestingAfter?_append (.plain (by decide) .nil), opened,
      Option.bind_some, nestingAfter?_append innerSteady.complete, innerSteady.steady,
      Option.bind_some, closed]

theorem quoted (text : QuotedText) : IsSteady (FullText.phrase text.chars) where
  complete := .plain (by decide) ((text.escaped.imp fun c isQuotable => isQuotable.2).append
    (.plain (by decide) .nil))
  steady := fun depth => by
    have opened : nestingAfter? ⟨depth, false⟩ ['\x22'] = some ⟨depth, true⟩ := rfl
    have closed : nestingAfter? ⟨depth, true⟩ ['\x22'] = some ⟨depth, false⟩ := rfl
    have inside : nestingAfter? ⟨depth, true⟩ text.chars = some ⟨depth, true⟩ :=
      nestingAfter?_of_escaped (fun isQuotable => isQuotable.2 rfl)
        (fun c isQuotable => by simp [Nesting.after?, isQuotable.1]) text.escaped
    rw [FullText.phrase, ← List.singleton_append, List.append_assoc,
      nestingAfter?_append (.plain (by decide) .nil), opened, Option.bind_some,
      nestingAfter?_append (text.escaped.imp fun c isQuotable => isQuotable.2), inside,
      Option.bind_some, closed]

theorem atom (atom : ClauseAtom) : IsSteady atom.chars := by
  cases atom with
  | anything => exact of_each (List.forall_mem_singleton.2 (by decide))
  | bare token isTerm => exact of_escaped (token.escaped.imp fun _ => isInert_of_isPlain)
  | quoted text => exact quoted text

theorem clause (clause : Clause) : IsSteady clause.chars := by
  have ofField : IsSteady clause.field.chars :=
    of_each fun c member => isInert_of_isPlain (clause.field.each c member)
  have ofBoost : IsSteady (Nat.toDigits 10 clause.boost) :=
    of_each fun c member => isInert_of_isDigit ((areDigits_toDigits clause.boost).each c member)
  have ofMark (c : Char) (isInert : IsInert c) : IsSteady [c] :=
    of_each (List.forall_mem_singleton.2 isInert)
  have whole := ((ofField.append (ofMark ':' (by decide))).append (atom clause.atom)).append
    ((ofMark '^' (by decide)).append ofBoost)
  simpa [Clause.chars] using whole

theorem joiningWord : IsSteady FullText.joiningWord :=
  of_each (forall_mem_of_all (by decide))

theorem alternatives (clauses : List Clause) :
    IsSteady (FullText.alternatives (clauses.map Clause.chars)) := by
  induction clauses with
  | nil => exact of_each (List.forall_mem_nil _)
  | cons first rest inductionHypothesis =>
      cases rest with
      | nil => exact clause first
      | cons next others =>
          rw [List.map_cons, List.map_cons, alternatives_cons_cons, ← List.map_cons]
          exact (clause first).append (joiningWord.append inductionHypothesis)

end IsSteady

/-- Whatever has a derivation is balanced. -/
theorem Groups.isBalanced_chars (groups : Groups) : IsBalanced groups.chars := by
  have whole := (IsSteady.alternatives groups.left).parenthesized.append
    (IsSteady.joiningWord.append (IsSteady.alternatives groups.right).parenthesized)
  have steady := whole.steady 0
  simpa [IsBalanced, chars, grouped] using steady

end FacetedSearch.FullText
