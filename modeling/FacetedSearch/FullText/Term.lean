import FacetedSearch.Text.Blank

/-!
Contract: free text as a term of the query language with fields, boosts and wildcards.

Owns:
- `collapseBlanks`, which replaces each run of two or more blanks by one space;
- `escape`, which puts a backslash before every character with a meaning;
- `phrase` and `term`.

Does not own: queries over several fields.
-/

namespace FacetedSearch.FullText

open FacetedSearch.Text

/-- The blanks that were read since the last other character. -/
inductive BlankRun where
  | none
  | single (blank : Char)
  | several

namespace BlankRun

/-- The run with one more blank. -/
def extend (run : BlankRun) (blank : Char) : BlankRun :=
  match run with
  | .none => .single blank
  | _ => .several

/-- What a run becomes. -/
def chars : BlankRun → List Char
  | .none => []
  | .single blank => [blank]
  | .several => [' ']

end BlankRun

/-- The rest of a text after a run of blanks, with each run of several blanks as one space. -/
def collapseAfter (run : BlankRun) : List Char → List Char
  | [] => run.chars
  | c :: rest =>
      if isBlank c then collapseAfter (run.extend c) rest
      else run.chars ++ c :: collapseAfter .none rest

/-- The text with each run of several blanks as one space. -/
def collapseBlanks (text : List Char) : List Char :=
  collapseAfter .none text

/-- The characters with a meaning in the query language. -/
def specialCharacters : List Char :=
  ['\\', '+', '-', '!', '(', ')', ':', '^', '[', ']', '\x22', '\x7b', '\x7d', '~', '*', '?', '|',
   '&', ';', '/']

/-- One character of an escaped text. -/
def escapedForm (c : Char) : List Char :=
  if specialCharacters.contains c then ['\\', c] else [c]

/-- The text with a backslash before each character with a meaning. -/
def escape (text : List Char) : List Char :=
  text.flatMap escapedForm

/-- The text between quotes. -/
def phrase (text : List Char) : List Char :=
  '\x22' :: text ++ ['\x22']

/-- The term that matches everything. -/
def wildcard : List Char :=
  ['*']

/-- The term of a free text: the wildcard for a blank text or the wildcard itself, else the
escaped text, as a phrase if it holds a space. -/
def term (text : List Char) : List Char :=
  let trimmed := trimBlanks text
  if trimmed.isEmpty || trimmed == wildcard then wildcard
  else
    let escaped := escape (collapseBlanks trimmed)
    if escaped.contains ' ' then phrase escaped else escaped

def matchAllQuery : String :=
  "*:*"

end FacetedSearch.FullText
