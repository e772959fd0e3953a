import FacetedSearch.Json.Document

/-!
Contract: documents as tokens.

Owns:
- `Document.tokens`, the tokens that a document is written with;
- `ofTokens?_tokens` and `read?_ofList`: every document is read from its tokens, and from every text
  that has these tokens.

Does not own: the characters of tokens.
-/

namespace FacetedSearch.Json

namespace Document

mutual

/-- The tokens of a document. -/
def tokens : Document → List Token
  | .null => [.null]
  | .boolean value => [.boolean value]
  | .number literal => [.number literal]
  | .string text => [.string text]
  | .array [] => [.openArray, .closeArray]
  | .array (first :: rest) => .openArray :: (first.tokens ++ elementTokens rest)
  | .object [] => [.openObject, .closeObject]
  | .object ((key, first) :: rest) =>
      .openObject :: .string key :: .colon :: (first.tokens ++ memberTokens rest)

/-- The tokens of a list after its first element. -/
def elementTokens : List Document → List Token
  | [] => [.closeArray]
  | next :: rest => .comma :: (next.tokens ++ elementTokens rest)

/-- The tokens of an object after its first member. -/
def memberTokens : List (Option String × Document) → List Token
  | [] => [.closeObject]
  | (key, next) :: rest =>
      .comma :: .string key :: .colon :: (next.tokens ++ memberTokens rest)

end

end Document

namespace Position

/-- Reads tokens one after the other. -/
abbrev run? (position : Position) (tokens : List Token) : Option Position :=
  tokens.foldlM next? position

theorem run?_append (position : Position) (first second : List Token) :
    position.run? (first ++ second) = (position.run? first).bind fun next => next.run? second := by
  unfold run?
  rw [List.foldlM_append]
  rfl

/-- A value is read in whatever encloses it. The first token matters by itself: an empty list or
object may end where a value may start. -/
def ReadsValue (document : Document) : Prop :=
  ∀ enclosing, ∃ first rest, document.tokens = first :: rest ∧ first ≠ .closeArray ∧
    ((startValue? enclosing first).bind fun next => next.run? rest) =
      some (after document enclosing)

theorem ReadsValue.run?_value {document : Document} (reads : ReadsValue document)
    (enclosing : List Enclosing) :
    (⟨enclosing, .value⟩ : Position).run? document.tokens = some (after document enclosing) := by
  obtain ⟨first, rest, same, -, read⟩ := reads enclosing
  rw [same]
  exact read

theorem ReadsValue.run?_elementOrEnd {document : Document} (reads : ReadsValue document)
    (enclosing : List Enclosing) :
    (⟨enclosing, .elementOrEnd⟩ : Position).run? document.tokens =
      some (after document (.array [] :: enclosing)) := by
  obtain ⟨first, rest, same, notEnd, read⟩ := reads (.array [] :: enclosing)
  have atFirst : (⟨enclosing, .elementOrEnd⟩ : Position).next? first =
      startValue? (.array [] :: enclosing) first := by
    cases first <;> first | rfl | exact absurd rfl notEnd
  rw [same, run?, List.foldlM_cons, atFirst]
  exact read

mutual

theorem readsValue : ∀ document, ReadsValue document
  | .null => fun _ => ⟨_, _, rfl, by decide, rfl⟩
  | .boolean _ => fun _ => ⟨_, _, by rw [Document.tokens], by nofun, rfl⟩
  | .number _ => fun _ => ⟨_, _, by rw [Document.tokens], by nofun, rfl⟩
  | .string _ => fun _ => ⟨_, _, by rw [Document.tokens], by nofun, rfl⟩
  | .array [] => fun _ => ⟨_, _, by rw [Document.tokens], by decide, rfl⟩
  | .array (first :: rest) => fun enclosing => by
      refine ⟨_, _, by rw [Document.tokens], by decide, ?_⟩
      show (⟨enclosing, .elementOrEnd⟩ : Position).run? _ = _
      rw [run?_append, (readsValue first).run?_elementOrEnd enclosing]
      exact run?_elementTokens rest enclosing [first]
  | .object [] => fun _ => ⟨_, _, by rw [Document.tokens], by decide, rfl⟩
  | .object ((key, first) :: rest) => fun enclosing => by
      refine ⟨_, _, by rw [Document.tokens], by decide, ?_⟩
      show (⟨.object [] key :: enclosing, .value⟩ : Position).run? _ = _
      rw [run?_append, (readsValue first).run?_value]
      exact run?_memberTokens rest enclosing [(key, first)]

theorem run?_elementTokens : ∀ (rest : List Document) (enclosing : List Enclosing)
    (before : List Document),
    (⟨enclosing, .afterElement before⟩ : Position).run? (Document.elementTokens rest) =
      some (after (.array (before.reverse ++ rest)) enclosing)
  | [], enclosing, before => by
      rw [Document.elementTokens, List.append_nil]
      rfl
  | next :: rest, enclosing, before => by
      rw [Document.elementTokens]
      show (⟨.array before :: enclosing, .value⟩ : Position).run? _ = _
      rw [run?_append, (readsValue next).run?_value]
      have others := run?_elementTokens rest enclosing (next :: before)
      rw [List.reverse_cons, List.append_assoc] at others
      exact others

theorem run?_memberTokens : ∀ (rest : List (Option String × Document))
    (enclosing : List Enclosing) (before : List (Option String × Document)),
    (⟨enclosing, .afterMember before⟩ : Position).run? (Document.memberTokens rest) =
      some (after (.object (before.reverse ++ rest)) enclosing)
  | [], enclosing, before => by
      rw [Document.memberTokens, List.append_nil]
      rfl
  | (key, next) :: rest, enclosing, before => by
      rw [Document.memberTokens]
      show (⟨.object before key :: enclosing, .value⟩ : Position).run? _ = _
      rw [run?_append, (readsValue next).run?_value]
      have others := run?_memberTokens rest enclosing ((key, next) :: before)
      rw [List.reverse_cons, List.append_assoc] at others
      exact others

end

end Position

/-- Every document is read from its tokens. -/
theorem Document.ofTokens?_tokens (document : Document) :
    ofTokens? document.tokens = some document := by
  have read := (Position.readsValue document).run?_value []
  unfold Position.run? at read
  unfold ofTokens?
  rw [read]
  rfl

theorem Document.read?_ofList {chars : List Char} {document : Document}
    (written : tokens? chars = some document.tokens) :
    read? (String.ofList chars) = some document := by
  rw [read?, String.toList_ofList, written, Option.bind_some]
  exact ofTokens?_tokens document

end FacetedSearch.Json
