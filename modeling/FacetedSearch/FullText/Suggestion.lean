import FacetedSearch.FullText.QueryString
import FacetedSearch.Text.Splitting

/-!
Contract: boosted queries for suggestions.

Owns: `SuggestionFields.query`: the whole text as a phrase and its first word, or one of its
words, the earlier ones with the greater boost. The words are not escaped.
Does not own: completion by an engine.
-/

namespace FacetedSearch.FullText

open FacetedSearch.Text

/-- The fields that suggestions are searched in. -/
structure SuggestionFields where
  phraseField : String
  field : String
deriving DecidableEq, Repr

def phraseBoost : Nat := 1000

/-- The boost of the first word. -/
def firstWordBoost : Nat := 300

/-- How much less the boost of the next word is, and the least boost. -/
def boostStep : Nat := 100

/-- The boost of the next word. -/
def lowerBoost (boost : Nat) : Nat :=
  if boost > boostStep then boost - boostStep else boost

/-- The search of a field with a boost. -/
def boosted (field : String) (text : List Char) (boost : Nat) : List Char :=
  field.toList ++ ':' :: text ++ '^' :: Nat.toDigits 10 boost

/-- The searches for words, the first with the given boost. -/
def boostedWords (field : String) (boost : Nat) : List (List Char) → List (List Char)
  | [] => []
  | word :: rest => boosted field word boost :: boostedWords field (lowerBoost boost) rest

/-- The text that suggestions are searched for. -/
def suggestionText (text : List Char) : List Char :=
  let trimmed := trimBlanks text
  if trimmed.isEmpty then wildcard else collapseBlanks trimmed

namespace SuggestionFields

/-- The searches for the whole text. -/
def wholeSearches (fields : SuggestionFields) (text : List Char) : List (List Char) :=
  match pieces ' ' text with
  | first :: _ :: _ =>
      [boosted fields.phraseField (phrase text) phraseBoost,
       boosted fields.phraseField first phraseBoost]
  | _ => [boosted fields.phraseField text phraseBoost]

/-- The query for a text. -/
def query (fields : SuggestionFields) (text : String) : String :=
  let searched := suggestionText text.toList
  let words := boostedWords fields.field firstWordBoost (pieces ' ' searched)
  String.ofList
    (alternatives
      ['(' :: alternatives (fields.wholeSearches searched) ++ [')'],
       '(' :: alternatives words ++ [')']])

end SuggestionFields

end FacetedSearch.FullText
