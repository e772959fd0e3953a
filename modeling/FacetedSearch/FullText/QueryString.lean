import FacetedSearch.Floating.Layout
import FacetedSearch.FullText.Term
import FacetedSearch.Query.Node
import FacetedSearch.Sorting

/-!
Contract: boosted queries over a table of fields.

Owns:
- `FullTextField`, a row of the table: a field with its boost for whole words, and the padding and
  the boost for parts of words;
- `QueryTable`, the rows in order of the fields, the queries for terms, and the fields to
  highlight.

A term without spaces searches every row for whole words and the padded rows for parts of words.
A phrase searches without padding, and a field only once.

Does not own: the escaping of terms.
-/

namespace FacetedSearch.FullText

/-- Where a wildcard pads a part of a word. -/
inductive Padding where
  | both
  | left
  | right
  | none
deriving DecidableEq, Repr

namespace Padding

def name : Padding → String
  | .both => "BOTH"
  | .left => "LEFT"
  | .right => "RIGHT"
  | .none => "NONE"

def ofName? (name : String) : Option Padding :=
  [both, left, right, none].find? fun padding => padding.name == name

/-- A term with wildcards. -/
def pad (padding : Padding) (term : List Char) : List Char :=
  match padding with
  | .both => wildcard ++ term ++ wildcard
  | .left => wildcard ++ term
  | .right => term ++ wildcard
  | .none => term

end Padding

/-- A row of the table. -/
structure FullTextField where
  field : String
  /-- The field for whole words, if it is another one. -/
  exactMatchField : Option String := none
  exactBoost : Single
  padding : Padding := .none
  partialBoost : Single
  /-- The field to highlight, if it is another one. -/
  highlightField : Option String := none
deriving DecidableEq, Repr

/-- The field for whole words. -/
def FullTextField.exactField (row : FullTextField) : String :=
  row.exactMatchField.getD row.field

/-- A search of one field. -/
structure Component where
  field : String
  padding : Padding
  boost : Single
deriving DecidableEq, Repr

def Component.chars (component : Component) (term : List Char) : List Char :=
  component.field.toList ++ ':' :: component.padding.pad term ++ '^' ::
    Floating.markedLayout.renderChars component.boost

def alternatives : List (List Char) → List Char
  | [] => []
  | [text] => text
  | text :: rest => text ++ [' ', 'O', 'R', ' '] ++ alternatives rest

namespace FullTextField

/-- The search of a row for whole words. -/
def exactComponent (row : FullTextField) : Component :=
  ⟨row.exactField, .none, row.exactBoost⟩

/-- The searches of a row for a term without spaces. -/
def termComponents (row : FullTextField) : List Component :=
  if row.padding = .none then [row.exactComponent]
  else [row.exactComponent, ⟨row.field, row.padding, row.partialBoost⟩]

/-- The searches of a row for a phrase. -/
def phraseComponents (row : FullTextField) : List Component :=
  if row.padding ≠ .none ∧ row.exactField ≠ row.field then
    [row.exactComponent, ⟨row.field, .none, row.partialBoost⟩]
  else [row.exactComponent]

end FullTextField

/-- The rows of a table, in order of the fields. -/
structure QueryTable where
  rows : List FullTextField

namespace QueryTable

def ofRows (rows : List FullTextField) : QueryTable :=
  ⟨sortBy FullTextField.field rows⟩

def highlightFields (table : QueryTable) : List String :=
  table.rows.map fun row => row.highlightField.getD row.field

def components (table : QueryTable) (term : List Char) : List Component :=
  if term.contains ' ' then table.rows.flatMap FullTextField.phraseComponents
  else table.rows.flatMap FullTextField.termComponents

/-- The query for a term. Without rows it is the term itself. -/
def queryOfTerm (table : QueryTable) (term : List Char) : List Char :=
  if term = wildcard then matchAllQuery.toList
  else
    let components := table.components term
    if components.isEmpty then term
    else '(' :: alternatives (components.map fun component => component.chars term) ++ [')']

/-- The query for a free text. -/
def query (table : QueryTable) (text : String) : String :=
  String.ofList (table.queryOfTerm (term text.toList))

def clause (table : QueryTable) (text : String) : FullTextClause :=
  .queryString (table.query text)

end QueryTable

end FacetedSearch.FullText
