import FacetedSearch.Floating.Layout
import FacetedSearch.Json.Value

/-!
Contract: answers of engines before they are made uniform.

Owns: hits, aggregations with their buckets, the material for spelling suggestions, and
`RawResult`, which holds all of them.
Does not own: the texts that engines answer with.
-/

namespace FacetedSearch

/-- A document that an engine found. -/
structure Hit where
  id : String := ""
  score : Option Double := none
  /-- The stored document. -/
  source : Json.Value := .null
  /-- Snippets with marked matches, for each field, in ascending order of the fields. -/
  highlight : List (String × List String) := []

/-- The value that a bucket counts. -/
inductive BucketKey where
  | text (key : String)
  | integer (key : Int64)
  | number (key : Double)
deriving DecidableEq, Repr

def BucketKey.asText : BucketKey → String
  | .text key => key
  | .integer key => toString key.toInt
  | .number key => Floating.markedLayout.render key

/-- A value with its number of documents. -/
structure Bucket where
  key : BucketKey
  count : UInt64
deriving DecidableEq, Repr

/-- An aggregation as an engine reports it. -/
inductive RawAggregation where
  /-- Buckets in the order of the engine. -/
  | terms (buckets : List Bucket)
  /-- A filter with aggregations inside it, each with its name. -/
  | filter (count : UInt64) (inner : List (String × RawAggregation))

/-- A corrected query with its number of hits and its pairs of a word and its correction. -/
structure Collation where
  query : String
  hits : UInt64
  corrections : List (String × String)
deriving DecidableEq, Repr

/-- Alternatives for a single word. -/
structure WordSuggestion where
  word : String
  hits : UInt64
  alternatives : List String
deriving DecidableEq, Repr

/-- The material for spelling suggestions. -/
structure RawSpelling where
  correctlySpelled : Bool := false
  collations : List Collation := []
  suggestions : List WordSuggestion := []
deriving DecidableEq, Repr

/-- The answer of an engine. -/
structure RawResult where
  total : UInt64 := 0
  hits : List Hit := []
  aggregations : List (String × RawAggregation) := []
  spelling : Option RawSpelling := none

end FacetedSearch
