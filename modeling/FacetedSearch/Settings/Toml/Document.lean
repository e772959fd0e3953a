import FacetedSearch.Settings.Toml.Draft
import FacetedSearch.Settings.Toml.Moment
import FacetedSearch.Settings.Toml.Quoted

/-!
Contract: texts in TOML.

Owns:
- keys, values with arrays and inline tables, and the statements of a text;
- `readFile?`, the assignments of a text.

A name at the start of a path may itself be the text of a path.

Does not own: which names are settings.
-/

namespace FacetedSearch.Settings.Toml

open Text

abbrev Reader (α : Type) := List Char → Option (α × List Char)

/-! ## Blanks and comments -/

def isCommentCharacter (c : Char) : Bool :=
  c == '\t' || (32 ≤ c.toNat && c.toNat != 127)

def skipBlanks (text : List Char) : List Char :=
  text.dropWhile isLineBlank

/-- The text after blanks, an optional comment and the end of the line or of the text. -/
def afterLine? (text : List Char) : Option (List Char) :=
  let afterComment :=
    match skipBlanks text with
    | '#' :: comment => comment.dropWhile isCommentCharacter
    | rest => rest
  if afterComment.isEmpty then some [] else afterLineEnd? afterComment

/-- The text after blanks, ends of lines and comments. -/
def skipLines (inComment : Bool) : List Char → List Char
  | [] => []
  | '\n' :: rest => skipLines false rest
  | '\r' :: '\n' :: rest => skipLines false rest
  | c :: rest =>
      if inComment then
        if isCommentCharacter c then skipLines true rest else c :: rest
      else if c = '#' then skipLines true rest
      else if isLineBlank c then skipLines false rest
      else c :: rest

/-! ## Keys -/

/-- Whether the character may stand in a key without quotes. -/
def isKeyCharacter (c : Char) : Bool :=
  c.isAlphanum || c == '_' || c == '-'

def readName? : Reader String
  | '\x22' :: rest => readQuotedLine? ('\x22' :: rest)
  | '\x27' :: rest => readQuotedLine? ('\x27' :: rest)
  | text =>
      match text.takeWhile isKeyCharacter with
      | [] => none
      | name => some (String.ofList name, text.dropWhile isKeyCharacter)

/-- Reads at most `bound` names with points between them. -/
def namesWithin : (bound : Nat) → Reader (List String)
  | 0, _ => none
  | bound + 1, text =>
      (readName? (skipBlanks text)).bind fun (name, afterName) =>
        match skipBlanks afterName with
        | '.' :: rest => (namesWithin bound rest).map fun read => (name :: read.1, read.2)
        | rest => some ([name], rest)

/-- Reads a key: names with points between them, and blanks around each. -/
def readKey? : Reader (List String) := fun text =>
  namesWithin (text.length + 1) text

/-- Reads a key, an equals sign and a value. -/
def pairOf? (value : Reader Tree) : Reader (List String × Tree) := fun text =>
  (readKey? text).bind fun (names, afterNames) =>
    match afterNames with
    | '=' :: rest => (value (skipBlanks rest)).map fun read => ((names, read.1), read.2)
    | _ => none

/-! ## Values -/

/-- The number of arrays and inline tables that may stand inside each other. -/
def nestingLimit : Nat := 79

def readPlain? : Reader Tree := fun text =>
  match text with
  | '\x22' :: _ | '\x27' :: _ =>
      (readQuoted? text).map fun read => (.scalar (.text read.1), read.2)
  | _ =>
      match readMoment? text with
      | some (moment, rest) => some (.scalar (.text moment), rest)
      | none =>
          (readWord? (text.takeWhile isWordCharacter)).map fun value =>
            (.scalar value, text.dropWhile isWordCharacter)

/-- Reads at most `bound` elements of an array after its opening bracket. -/
def elementsWithin (element : Reader Tree) : (bound : Nat) → Reader (List Tree)
  | 0, _ => none
  | bound + 1, text =>
      match skipLines false text with
      | ']' :: rest => some ([], rest)
      | text =>
          (element text).bind fun (tree, afterTree) =>
            match skipLines false afterTree with
            | ',' :: rest =>
                (elementsWithin element bound rest).map fun read => (tree :: read.1, read.2)
            | ']' :: rest => some ([tree], rest)
            | _ => none

/-- Reads at most `bound` pairs of an inline table into a draft. -/
def pairsWithin (value : Reader Tree) : (bound : Nat) → Draft → Reader Draft
  | 0, _, _ => none
  | bound + 1, draft, text =>
      (pairOf? value text).bind fun ((names, tree), afterPair) =>
        (draft.assign? [] names tree).bind fun draft =>
          match skipBlanks afterPair with
          | ',' :: rest => pairsWithin value bound draft rest
          | '}' :: rest => some (draft, rest)
          | _ => none

def inlineTable? (value : Reader Tree) : Reader Tree := fun text =>
  match skipBlanks text with
  | '}' :: rest => some (.table [], rest)
  | text =>
      (pairsWithin value text.length .empty text).map fun read =>
        (Tree.ofAssignments read.1.assignments.reverse, read.2)

/-- Reads a value with at most `bound` levels of arrays and inline tables. -/
def valueWithin : (bound : Nat) → Reader Tree
  | bound + 1, '[' :: text =>
      (elementsWithin (valueWithin bound) (text.length + 1) text).map fun read =>
        (.list read.1, read.2)
  | bound + 1, '{' :: text => inlineTable? (valueWithin bound) text
  | _, text => readPlain? text

/-! ## Statements -/

/-- The table that pairs belong to, and the statements so far. -/
structure Progress where
  table : List Step
  draft : Draft

def readHeader? (closing : List Char) (opened : Draft → List String → Option (List Step × Draft))
    (progress : Progress) : Reader Progress := fun text =>
  (readKey? text).bind fun (names, afterNames) =>
    (stripStart? closing afterNames).bind fun afterHeader =>
      (afterLine? afterHeader).bind fun rest =>
        (opened progress.draft names).map fun (table, draft) => (⟨table, draft⟩, rest)

/-- Reads a line with a header or a pair, or without a statement. -/
def readStatement? (progress : Progress) : Reader Progress := fun text =>
  match skipBlanks text with
  | '[' :: '[' :: rest => readHeader? [']', ']'] Draft.openElement? progress rest
  | '[' :: rest => readHeader? [']'] Draft.openTable? progress rest
  | text =>
      match afterLine? text with
      | some rest => some (progress, rest)
      | none =>
          (pairOf? (valueWithin nestingLimit) text).bind fun ((names, tree), afterPair) =>
            (afterLine? afterPair).bind fun rest =>
              (progress.draft.assign? progress.table names tree).map fun draft =>
                ({ progress with draft }, rest)

/-- Reads at most `bound` statements up to the end of the text. -/
def statementsWithin : (bound : Nat) → Progress → List Char → Option Progress
  | _, progress, [] => some progress
  | 0, _, _ => none
  | bound + 1, progress, text =>
      (readStatement? progress text).bind fun (progress, rest) =>
        statementsWithin bound progress rest

/-- A text without the byte order mark at its start. -/
def dropByteOrderMark (text : List Char) : List Char :=
  (stripStart? ['\ufeff'] text).getD text

/-- An assignment whose first name, if it is the text of a path, leads along that path. -/
def leadIn (assignment : Assignment) : Assignment :=
  match assignment.path with
  | .member name :: path =>
      { assignment with path := (readPath? name.toList).getD [.member name] ++ path }
  | _ => assignment

def readFile? (text : String) : Option (List Assignment) :=
  let characters := dropByteOrderMark text.toList
  (statementsWithin characters.length ⟨[], .empty⟩ characters).map fun progress =>
    progress.draft.assignments.reverse.map leadIn

end FacetedSearch.Settings.Toml
