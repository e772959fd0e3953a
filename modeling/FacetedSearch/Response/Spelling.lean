import FacetedSearch.Response.Raw

/-!
Contract: suggestions for another spelling.

Owns: `SpellCheck` and its making from an engine's answer. Corrected queries win over suggestions
for single words. What stands for the same typed words is merged: its alternatives in order of
their first occurrence, its number of hits the greatest.
Does not own: the search for corrections.
-/

namespace FacetedSearch

open Json

/-- Alternatives for words as they were typed. -/
structure SpellSuggestion where
  typed : String
  hits : UInt64
  alternatives : List String
deriving DecidableEq, Repr

/-- Suggestions for another spelling. -/
structure SpellCheck where
  correctlySpelled : Bool
  suggestions : List SpellSuggestion
deriving DecidableEq, Repr

namespace SpellSuggestion

/-- Alternatives with others added that are not there yet. -/
def addAlternatives (present added : List String) : List String :=
  added.foldl (fun alternatives alternative =>
    if alternatives.contains alternative then alternatives else alternatives ++ [alternative])
    present

/-- A suggestion with another one for the same words merged into it. -/
def absorb (suggestion other : SpellSuggestion) : SpellSuggestion :=
  { suggestion with
    hits := max suggestion.hits other.hits
    alternatives := addAlternatives suggestion.alternatives other.alternatives }

/-- Suggestions with one merged into the first one for the same words, or added at the end. -/
def mergeInto (other : SpellSuggestion) : List SpellSuggestion → List SpellSuggestion
  | [] => [absorb ⟨other.typed, 0, []⟩ other]
  | suggestion :: rest =>
      if suggestion.typed = other.typed then suggestion.absorb other :: rest
      else suggestion :: mergeInto other rest

def toJson (suggestion : SpellSuggestion) : Value :=
  .object
    [("original", .string suggestion.typed), ("numFound", .ofWord suggestion.hits),
     ("alternatives", .ofStrings suggestion.alternatives)]

end SpellSuggestion

/-- A corrected query as a suggestion for the words that it corrects. -/
def Collation.suggestion (collation : Collation) : SpellSuggestion :=
  ⟨" ".intercalate (collation.corrections.map Prod.fst), collation.hits, [collation.query]⟩

def WordSuggestion.suggestion (word : WordSuggestion) : SpellSuggestion :=
  ⟨word.word, word.hits, word.alternatives⟩

/-- The suggestions of an answer before they are merged. -/
def RawSpelling.unmerged (spelling : RawSpelling) : List SpellSuggestion :=
  if spelling.collations.isEmpty then spelling.suggestions.map WordSuggestion.suggestion
  else spelling.collations.map Collation.suggestion

namespace SpellCheck

/-- The suggestions of an answer. -/
def ofRaw (spelling : RawSpelling) : SpellCheck where
  correctlySpelled := spelling.correctlySpelled
  suggestions :=
    spelling.unmerged.foldl (fun merged suggestion => suggestion.mergeInto merged) []

/-- The suggestion for typed words. -/
def suggestion? (check : SpellCheck) (typed : String) : Option SpellSuggestion :=
  check.suggestions.find? fun suggestion => suggestion.typed == typed

def toJson (check : SpellCheck) : Value :=
  .object
    [("correctlySpelled", .boolean check.correctlySpelled),
     ("suggestions", .array (check.suggestions.map SpellSuggestion.toJson))]

end SpellCheck

end FacetedSearch
