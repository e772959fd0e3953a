import FacetedSearch.Json.Decoding
import FacetedSearch.Response.Raw
import FacetedSearch.SearchError

/-!
Contract: answers of Elasticsearch.

Owns:
- the form of answers to searches and to requests for completions;
- aggregations: lists of buckets, and filters with aggregations inside them.

Aggregations come in ascending order of their names.

Does not own: the meaning of aggregations.
-/

namespace FacetedSearch.Elasticsearch

open Json

/-! ## Aggregations -/

def bucketKey? : Value → Option BucketKey
  | .string key => some (.text key)
  | .number key =>
      match key.asInt64? with
      | some integer => some (.integer integer)
      | none => some (.number key.toDouble)
  | .boolean key => some (.text (if key then "true" else "false"))
  | _ => none

def readBucket (name : String) (value : Value) : Except SearchError Bucket :=
  match (value.member? "key").bind bucketKey? with
  | none => .error (.response (.bucketWithoutKey name))
  | some key =>
      match (value.member? "doc_count").bind Value.word? with
      | none => .error (.response (.bucketWithoutCount name))
      | some count => .ok ⟨key, count⟩

def readBuckets (name : String) : Value → Except SearchError RawAggregation
  | .array values => (values.mapM (readBucket name)).map .terms
  | _ => .error (.response (.bucketsNotList name))

mutual

def readAggregation (name : String) : Value → Except SearchError RawAggregation
  | .object members =>
      match Value.memberOf? "buckets" members with
      | some value => readBuckets name value
      | none =>
          match (Value.memberOf? "doc_count" members).bind Value.word? with
          | none => .error (.response (.unsupportedAggregation name))
          | some count => (readInnerAggregations members).map (.filter count)
  | _ => .error (.response (.notObject name))

/-- Reads the members of an aggregation that are aggregations. -/
def readInnerAggregations :
    List (String × Value) → Except SearchError (List (String × RawAggregation))
  | [] => .ok []
  | (name, .object members) :: rest =>
      match readAggregation name (.object members) with
      | .error error => .error error
      | .ok first => (readInnerAggregations rest).map ((name, first) :: ·)
  | _ :: rest => readInnerAggregations rest

end

def readAggregations :
    List (String × Value) → Except SearchError (List (String × RawAggregation))
  | [] => .ok []
  | (name, value) :: rest =>
      match readAggregation name value with
      | .error error => .error error
      | .ok first => (readAggregations rest).map ((name, first) :: ·)

/-! ## Answers -/

def hitFields : FieldTable :=
  ["_id", "_score", "_source", "highlight"].map fun name => (name, .allowed)

def hit : Decoder Hit := fun allowance document => do
  let record ← hitFields.read? allowance document
  return {
    id := ← record.defaulted? "_id" "" Decoder.text
    score := ← record.defaulted? "_score" none (Decoder.nullable Decoder.double)
    source := ← record.defaulted? "_source" .null Decoder.value
    highlight :=
      ← record.defaulted? "highlight" [] (Decoder.map (Decoder.list Decoder.text)) }

/-- Reads a number of hits: a number, or an object with one. -/
def total : Decoder UInt64
  | allowance + 1, .object members => do
      let _ ← Decoder.value (allowance + 1) (.object members)
      let table : FieldTable := [("value", .refused)]
      let fields ← table.readObject? members
      (Record.mk fields allowance).required? "value" Decoder.word
  | allowance, document => Decoder.word allowance document

/-- The hits of an answer with their number, if it is stated. -/
structure HitList where
  total : Option UInt64
  hits : List Hit

def hitList : Decoder HitList := fun allowance document => do
  let table : FieldTable := [("total", .allowed), ("hits", .allowed)]
  let record ← table.read? allowance document
  return {
    total := ← record.defaulted? "total" none (Decoder.nullable total)
    hits := ← record.defaulted? "hits" [] (Decoder.list hit) }

/-- Reads the hits and the aggregations of an answer. -/
def answer : Decoder (HitList × List (String × Value)) := fun allowance document => do
  let table : FieldTable := [("hits", .refused), ("aggregations", .allowed)]
  let record ← table.read? allowance document
  let hits ← record.required? "hits" hitList
  let aggregations ← record.defaulted? "aggregations" [] (Decoder.map Decoder.value)
  return (hits, aggregations)

/-- The result of an answer whose form was read. -/
def resultOf (answer : HitList × List (String × Value)) : Except SearchError RawResult :=
  (readAggregations answer.2).map fun aggregations =>
    { total := answer.1.total.getD answer.1.hits.length.toUInt64
      hits := answer.1.hits
      aggregations := aggregations }

def readSearch (text : String) : Except SearchError RawResult :=
  match decode? answer text with
  | none => .error (.serialization "malformed response")
  | some answer => resultOf answer

def completionEntry : Decoder (List Hit) := fun allowance document => do
  let table : FieldTable := [("options", .allowed)]
  let record ← table.read? allowance document
  record.defaulted? "options" [] (Decoder.list hit)

/-- Reads the completions of an answer, for each field. -/
def completions : Decoder (List (String × List (List Hit))) := fun allowance document => do
  let table : FieldTable := [("suggest", .allowed)]
  let record ← table.read? allowance document
  record.defaulted? "suggest" [] (Decoder.map (Decoder.list completionEntry))

/-- Reads the answer to a request for completions of a field. -/
def readSuggest (field text : String) : Except SearchError (List Hit) :=
  match decode? completions text with
  | none => .error (.serialization "malformed response")
  | some found =>
      .ok ((found.find? fun entry => entry.1 == field).elim [] fun entry => entry.2.flatten)

end FacetedSearch.Elasticsearch
