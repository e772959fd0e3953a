import FacetedSearch.Json.Decoding
import FacetedSearch.Json.Text
import FacetedSearch.Response.Raw
import FacetedSearch.SearchError

/-!
Contract: answers of Solr.

Owns:
- the form of answers to searches, with the field that identifies documents;
- flat lists of names and counts;
- flat lists of corrections, in which what has no usable value is skipped.

Does not own: the meaning of counts and corrections.
-/

namespace FacetedSearch.Solr

open Json

/-! ## Flat lists -/

/-- Reads a list of names and counts in turn. -/
def flatCounts (field : String) : List Value → Except SearchError (List Bucket)
  | [] => .ok []
  | .string key :: count :: rest =>
      match count.word? with
      | none => .error (.response (.badCount key field))
      | some count => (flatCounts field rest).map (⟨.text key, count⟩ :: ·)
  | _ => .error (.response (.countsNotPairs field))

/-- The objects of a list of names and values in turn, with their names. -/
def namedObjects : List Value → List (String × Value)
  | .string name :: value :: rest =>
      if value.isObject then (name, value) :: namedObjects rest else namedObjects rest
  | _ :: _ :: rest => namedObjects rest
  | _ => []

/-- The pairs of texts of a list with two texts in turn. -/
def textPairs : List Value → List (String × String)
  | .string first :: .string second :: rest => (first, second) :: textPairs rest
  | _ :: _ :: rest => textPairs rest
  | _ => []

/-- A field's name without the local parameters in front of it. -/
def withoutLocalParameters (name : List Char) : List Char :=
  match name with
  | '\x7b' :: '!' :: _ =>
      match name.dropWhile fun c => c != '\x7d' with
      | [] => name
      | _ :: rest => rest
  | _ => name

def facetCounts :
    List (String × Value) → Except SearchError (List (String × RawAggregation))
  | [] => .ok []
  | (name, counts) :: rest =>
      match counts.elements? with
      | none => .error (.response (.countsNotList name))
      | some values =>
          match flatCounts name values with
          | .error error => .error error
          | .ok buckets =>
              (facetCounts rest).map
                ((String.ofList (withoutLocalParameters name.toList), .terms buckets) :: ·)

/-! ## Corrections -/

/-- An alternative: a text, or an object with one. -/
def alternative? : Value → Option String
  | .string word => some word
  | value => (value.member? "word").bind Value.string?

/-- The number of hits in a member of an object. -/
def hitsIn (name : String) (value : Value) : UInt64 :=
  ((value.member? name).bind Value.word?).getD 0

/-- The elements of the list in a member of an object. -/
def elementsIn (name : String) (value : Value) : List Value :=
  ((value.member? name).bind Value.elements?).getD []

def wordSuggestion (entry : String × Value) : WordSuggestion :=
  ⟨entry.1, hitsIn "numFound" entry.2, (elementsIn "suggestion" entry.2).filterMap alternative?⟩

def collation? (entry : String × Value) : Option Collation :=
  ((entry.2.member? "collationQuery").bind Value.string?).map fun query =>
    ⟨query, hitsIn "hits" entry.2, textPairs (elementsIn "misspellingsAndCorrections" entry.2)⟩

/-! ## Answers -/

/-- The documents of an answer with their number. -/
structure DocumentList where
  total : UInt64
  documents : List Value

/-- An answer whose form was read. -/
structure Answer where
  documents : DocumentList
  highlighting : List (String × List (String × List String))
  counts : List (String × Value)
  spelling : Option RawSpelling

def documentList : Decoder DocumentList := fun allowance document => do
  let table : FieldTable := [("numFound", .refused), ("docs", .allowed)]
  let record ← table.read? allowance document
  return {
    total := ← record.required? "numFound" Decoder.word
    documents := ← record.defaulted? "docs" [] (Decoder.list Decoder.value) }

def countTable : Decoder (List (String × Value)) := fun allowance document => do
  let table : FieldTable := [("facet_fields", .allowed)]
  let record ← table.read? allowance document
  record.defaulted? "facet_fields" [] (Decoder.map Decoder.value)

def spelling : Decoder RawSpelling := fun allowance document => do
  let table : FieldTable :=
    ["suggestions", "correctlySpelled", "collations"].map fun name => (name, .allowed)
  let record ← table.read? allowance document
  let suggestions ← record.defaulted? "suggestions" [] (Decoder.list Decoder.value)
  let correct ← record.defaulted? "correctlySpelled" none (Decoder.nullable Decoder.boolean)
  let collations ← record.defaulted? "collations" [] (Decoder.list Decoder.value)
  return {
    correctlySpelled := correct.getD false
    collations := (namedObjects collations).filterMap collation?
    suggestions := (namedObjects suggestions).map wordSuggestion }

def answer : Decoder Answer := fun allowance document => do
  let table : FieldTable :=
    [("response", .refused), ("highlighting", .allowed), ("facet_counts", .allowed),
     ("spellcheck", .allowed)]
  let record ← table.read? allowance document
  let counts ← record.defaulted? "facet_counts" none (Decoder.nullable countTable)
  return {
    documents := ← record.required? "response" documentList
    highlighting :=
      ← record.defaulted? "highlighting" []
        (Decoder.map (Decoder.map (Decoder.list Decoder.text)))
    counts := counts.getD []
    spelling := ← record.defaulted? "spellcheck" none (Decoder.nullable spelling) }

def documentId (idField : String) (document : Value) : String :=
  match document.member? idField with
  | none => ""
  | some (.string id) => id
  | some value => value.text

def hit (idField : String) (highlighting : List (String × List (String × List String)))
    (document : Value) : Hit :=
  let id := documentId idField document
  { id := id
    score := ((document.member? "score").bind Value.number?).map Number.toDouble
    source := document
    highlight := ((highlighting.find? fun entry => entry.1 == id).map Prod.snd).getD [] }

/-- The field that identifies documents if an application states none. -/
def defaultIdField : String :=
  "id"

/-- The result of an answer whose form was read. -/
def resultOf (idField : String) (answer : Answer) : Except SearchError RawResult :=
  (facetCounts answer.counts).map fun aggregations =>
    { total := answer.documents.total
      hits := answer.documents.documents.map (hit idField answer.highlighting)
      aggregations := aggregations
      spelling := answer.spelling }

def readSearch (idField text : String) : Except SearchError RawResult :=
  match decode? answer text with
  | none => .error (.serialization "malformed response")
  | some answer => resultOf idField answer

end FacetedSearch.Solr
