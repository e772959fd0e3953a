import FacetedSearch.Text.CaseTable

/-!
Contract: full Unicode case mapping of texts.

Owns:
- `toUpper`, character by character, with the forms that grow (`ß` becomes `SS`);
- `toLower`, where a capital sigma at the end of a word becomes the final sigma;
- `equalIgnoringAsciiCase`, for keywords that are written with ASCII letters.

Does not own: language-specific mappings.
-/

namespace FacetedSearch.Text

/-- Whether the run covers the code point. -/
def CaseRun.covers (run : CaseRun) (code : Nat) : Bool :=
  run.first ≤ code && code ≤ run.last && (code - run.first) % run.step == 0

/-- The partner of a character in the runs, the character itself when no run covers it. -/
def mapByRuns (runs : List CaseRun) (c : Char) : Char :=
  match runs.find? fun run => run.covers c.toNat with
  | some run => Char.ofNat (c.toNat + run.distance).toNat
  | none => c

def upperForm (c : Char) : List Char :=
  match upperSequences.find? fun entry => entry.1 == c.toNat with
  | some entry => entry.2.map Char.ofNat
  | none => [mapByRuns upperRuns c]

def toUpper (text : List Char) : List Char :=
  text.flatMap upperForm

/-- Whether the nearest character that is not case-ignorable is cased. -/
def reachesCased (text : List Char) : Bool :=
  match text.dropWhile caseIgnorableRanges.contains with
  | [] => false
  | c :: _ => casedRanges.contains c

/-- The lower-case form of one character between `before`, read backwards, and `after`. -/
def lowerForm (before : List Char) (c : Char) (after : List Char) : List Char :=
  if c = 'Σ' then
    if reachesCased before && !reachesCased after then ['ς'] else ['σ']
  else if c = 'İ' then ['i', '\u0307']
  else [mapByRuns lowerRuns c]

/-- The lower-case form of the rest of a text whose beginning, read backwards, is `before`. -/
def lowerAfter (before : List Char) : List Char → List Char
  | [] => []
  | c :: rest => lowerForm before c rest ++ lowerAfter (c :: before) rest

def toLower (text : List Char) : List Char :=
  lowerAfter [] text

/-- Equality of texts up to the case of ASCII letters. -/
def equalIgnoringAsciiCase (left right : List Char) : Bool :=
  left.map Char.toLower == right.map Char.toLower

end FacetedSearch.Text
