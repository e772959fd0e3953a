import FacetedSearch.Json.Access
import FacetedSearch.Response.Raw

/-!
Contract: answers of engines as JSON values, for those who want to see what was read.

Owns: the JSON values of hits, aggregations, spelling material and whole answers.
Does not own: uniform answers.
-/

namespace FacetedSearch

open Json

def Hit.toJson (hit : Hit) : Value :=
  .object
    [("id", .string hit.id),
     ("score", orNull Value.ofDouble hit.score),
     ("source", hit.source),
     ("highlight", .object (hit.highlight.map fun entry => (entry.1, .ofStrings entry.2)))]

/-- The name of the kind of a bucket's value. -/
def BucketKey.kindName : BucketKey → String
  | .text _ => "text"
  | .integer _ => "integer"
  | .number _ => "number"

def Bucket.toJson (bucket : Bucket) : Value :=
  .array [.string bucket.key.kindName, .string bucket.key.asText, .ofWord bucket.count]

mutual

def RawAggregation.toJson (name : String) : RawAggregation → Value
  | .terms buckets =>
      .object [("name", .string name), ("terms", .array (buckets.map Bucket.toJson))]
  | .filter count inner =>
      .object
        [("name", .string name), ("filter", .ofWord count),
         ("aggregations", .array (RawAggregation.allToJson inner))]

def RawAggregation.allToJson : List (String × RawAggregation) → List Value
  | [] => []
  | (name, aggregation) :: rest =>
      aggregation.toJson name :: RawAggregation.allToJson rest

end

def Collation.toJson (collation : Collation) : Value :=
  .object
    [("query", .string collation.query),
     ("hits", .ofWord collation.hits),
     ("corrections", .array (collation.corrections.map fun pair => .ofStrings [pair.1, pair.2]))]

def WordSuggestion.toJson (suggestion : WordSuggestion) : Value :=
  .object
    [("token", .string suggestion.word),
     ("num_found", .ofWord suggestion.hits),
     ("alternatives", .ofStrings suggestion.alternatives)]

def RawSpelling.toJson (spelling : RawSpelling) : Value :=
  .object
    [("correctly_spelled", .boolean spelling.correctlySpelled),
     ("collations", .array (spelling.collations.map Collation.toJson)),
     ("suggestions", .array (spelling.suggestions.map WordSuggestion.toJson))]

def RawResult.toJson (raw : RawResult) : Value :=
  .object
    [("total", .ofWord raw.total),
     ("hits", .array (raw.hits.map Hit.toJson)),
     ("aggregations", .array (RawAggregation.allToJson raw.aggregations)),
     ("spell_check", orNull RawSpelling.toJson raw.spelling)]

end FacetedSearch
