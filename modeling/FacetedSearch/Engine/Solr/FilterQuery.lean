import FacetedSearch.FullText.Term
import FacetedSearch.Query.Node

/-!
Contract: trees and clauses in the query language of Solr.

Owns:
- the terms and the bounds of values: a day is a range of times, texts stand between quotes,
  whatever has a meaning in the language is escaped;
- `filterQuery`, the expression of a tree, with parentheses around each group;
- `mainQuery`, the expression of the clauses for free text.

Does not own: request parameters.
-/

namespace FacetedSearch.Solr

open FullText

def joined (separator : List Char) : List (List Char) → List Char
  | [] => []
  | [text] => text
  | text :: rest => text ++ separator ++ joined separator rest

/-- Texts as a group, with a word between them. -/
def group (word : String) (texts : List (List Char)) : List Char :=
  '(' :: joined (' ' :: word.toList ++ [' ']) texts ++ [')']

/-- The times of a day that a bound of a range names. -/
inductive BoundSide where
  | lower
  | upper
deriving DecidableEq, Repr

/-- The time of day of a bound, with its mark. -/
def BoundSide.time : BoundSide → List Char
  | .lower => "T00:00:00Z".toList
  | .upper => "T23:59:59.999Z".toList

def bound (side : BoundSide) : TypedValue → List Char
  | .date day => day.chars ++ side.time
  | value => value.asText.toList

/-- A bound of a range, or the wildcard. -/
def boundOrWildcard (side : BoundSide) : Option TypedValue → List Char
  | none => wildcard
  | some value => bound side value

/-- The statement that a field lies between two bounds. -/
def rangeChars (field lower upper : List Char) : List Char :=
  field ++ [':', '['] ++ lower ++ " TO ".toList ++ upper ++ [']']

/-- Whether the text of a value stands between quotes. -/
def isQuoted : TypedValue → Bool
  | .text _ | .keyword _ | .uuid _ => true
  | _ => false

def term (field : String) (value : TypedValue) : List Char :=
  match value with
  | .date _ => rangeChars field.toList (bound .lower value) (bound .upper value)
  | _ =>
      let escaped := escape value.asText.toList
      field.toList ++ ':' :: if isQuoted value then phrase escaped else escaped

def predicateQuery : FilterPredicate → List Char
  | .equality field value => term field value
  | .multiEquality field values => group "OR" (values.map (term field))
  | .range field lower upper =>
      rangeChars field.toList (boundOrWildcard .lower lower) (boundOrWildcard .upper upper)
  | .spatial field shape =>
      field.toList ++ ':' ::
        phrase ("IsWithin(".toList ++ shape.toList ++ ") distErrPct=0".toList)

mutual

def filterQuery : QueryNode → List Char
  | .predicate statement => predicateQuery statement
  | .not inner => '-' :: filterQuery inner
  | .or nodes => group "OR" (filterQueries nodes)
  | .and nodes => group "AND" (filterQueries nodes)

def filterQueries : List QueryNode → List (List Char)
  | [] => []
  | node :: rest => filterQuery node :: filterQueries rest

end

def clauseQuery : FullTextClause → List Char
  | .match field text => field.toList ++ [':', '('] ++ escape text.toList ++ [')']
  | .queryString query => query.toList

/-- The expression of some clauses: everything without a clause, a clause as it is, and several in
parentheses. -/
def clausesQuery : List FullTextClause → List Char
  | [] => matchAllQuery.toList
  | [clause] => clauseQuery clause
  | clauses =>
      joined " AND ".toList (clauses.map fun clause => '(' :: clauseQuery clause ++ [')'])

/-- The expression of a query's clauses for free text. -/
def mainQuery (query : Option BoolQuery) : String :=
  String.ofList (clausesQuery ((query.map BoolQuery.must).getD []))

end FacetedSearch.Solr
