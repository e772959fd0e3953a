import FacetedSearch.Json.Token

/-!
Contract: JSON texts as trees that still show how they were written.

Owns:
- `Document`, with numbers as literals and members in order, repeated keys included;
- `Document.read?`, which accepts exactly one value with nothing but blanks around it.

The reader keeps the containers that enclose the current position in a list, so the nesting of a
text is not bounded here.

Does not own: the bound on nesting, the range of numbers and the meaning of repeated keys.
These belong to the reading of documents as values.
-/

namespace FacetedSearch.Json

/-- A JSON text as a tree. -/
inductive Document where
  | null
  | boolean (value : Bool)
  | number (literal : Literal)
  /-- A string; nothing if its escapes do not name characters. -/
  | string (text : Option String)
  | array (elements : List Document)
  | object (members : List (Option String × Document))
deriving Inhabited

/-- A container that encloses the current position, with what was read of it, last one first. -/
inductive Enclosing where
  | array (before : List Document)
  | object (before : List (Option String × Document)) (key : Option String)

/-- What may come next. Unfinished lists run backwards. -/
inductive Stage where
  | value
  | elementOrEnd
  | memberOrEnd
  | member (before : List (Option String × Document))
  | colon (before : List (Option String × Document)) (key : Option String)
  | afterElement (before : List Document)
  | afterMember (before : List (Option String × Document))
  | finished (document : Document)

/-- The position of a reader: the enclosing containers, innermost first, and the stage. -/
structure Position where
  enclosing : List Enclosing
  stage : Stage

/-- The position after a complete value. -/
def Position.after (document : Document) : List Enclosing → Position
  | [] => ⟨[], .finished document⟩
  | .array before :: enclosing => ⟨enclosing, .afterElement (document :: before)⟩
  | .object before key :: enclosing => ⟨enclosing, .afterMember ((key, document) :: before)⟩

/-- The position after the first token of a value. -/
def Position.startValue? (enclosing : List Enclosing) : Token → Option Position
  | .null => some (.after .null enclosing)
  | .boolean value => some (.after (.boolean value) enclosing)
  | .number literal => some (.after (.number literal) enclosing)
  | .string text => some (.after (.string text) enclosing)
  | .openArray => some ⟨enclosing, .elementOrEnd⟩
  | .openObject => some ⟨enclosing, .memberOrEnd⟩
  | _ => none

def Position.next? (position : Position) (token : Token) : Option Position :=
  let enclosing := position.enclosing
  match position.stage, token with
  | .value, token => startValue? enclosing token
  | .elementOrEnd, .closeArray => some (.after (.array []) enclosing)
  | .elementOrEnd, token => startValue? (.array [] :: enclosing) token
  | .memberOrEnd, .closeObject => some (.after (.object []) enclosing)
  | .memberOrEnd, .string key => some ⟨enclosing, .colon [] key⟩
  | .member before, .string key => some ⟨enclosing, .colon before key⟩
  | .colon before key, .colon => some ⟨.object before key :: enclosing, .value⟩
  | .afterElement before, .closeArray => some (.after (.array before.reverse) enclosing)
  | .afterElement before, .comma => some ⟨.array before :: enclosing, .value⟩
  | .afterMember before, .closeObject => some (.after (.object before.reverse) enclosing)
  | .afterMember before, .comma => some ⟨enclosing, .member before⟩
  | _, _ => none

/-- The document of a list of tokens. -/
def Document.ofTokens? (tokens : List Token) : Option Document :=
  (tokens.foldlM Position.next? ⟨[], .value⟩).bind fun position =>
    match position.stage with
    | .finished document => some document
    | _ => none

def Document.read? (text : String) : Option Document :=
  (tokens? text.toList).bind ofTokens?

end FacetedSearch.Json
