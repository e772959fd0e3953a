import FacetedSearch.Request.Basic
import FacetedSearch.Response.Spelling
import FacetedSearch.SearchError
import FacetedSearch.Sorting
import FacetedSearch.Text.Splitting

/-!
Contract: answers that do not depend on the engine.

Owns:
- `UniformResponse`, a page of mapped hits with facets and suggestions for another spelling;
- `ResponseNormalizer.facets`: aggregations of known fields as facets, each with its page, in order
  of the request, and those that were not requested after them in order of the engine;
- `ResponseNormalizer.normalize` and `ResponseNormalizer.normalizeFaceted`.

Does not own: the reading of answers, and what hits are mapped to.
-/

namespace FacetedSearch

open Json

variable {P : Type} [SearchParameter P]

/-- A value of a facet with its number of documents. -/
structure FacetCount where
  name : String
  count : UInt64
deriving DecidableEq, Repr

/-- A page of the values of a parameter. -/
structure Facet (P : Type) where
  parameter : P
  counts : List FacetCount
deriving DecidableEq

/-- An answer that does not depend on the engine. -/
structure UniformResponse (T P : Type) where
  offset : UInt64
  limit : UInt64
  count : UInt64
  results : List T
  facets : List (Facet P)
  spelling : Option SpellCheck

/-- A value of a facet as a JSON value. -/
def FacetCount.toJson (count : FacetCount) : Value :=
  .object [("name", .string count.name), ("count", .ofWord count.count)]

def Facet.toJson (facet : Facet P) : Value :=
  .object
    [("field", .string (SearchParameter.name facet.parameter)),
     ("counts", .array (facet.counts.map FacetCount.toJson))]

namespace UniformResponse

variable {T : Type}

def facet? (response : UniformResponse T P) (parameter : P) : Option (Facet P) :=
  response.facets.find? fun facet => decide (facet.parameter = parameter)

def toJson (result : T → Value) (response : UniformResponse T P) : Value :=
  .object
    ([("offset", .ofWord response.offset), ("limit", .ofWord response.limit),
      ("count", .ofWord response.count), ("results", .array (response.results.map result)),
      ("facets", .array (response.facets.map Facet.toJson))] ++
      match response.spelling with
      | some spelling => [("spellCheck", spelling.toJson)]
      | none => [])

end UniformResponse

/-- Maps hits in their order, without snippets unless they were asked for. -/
def mapHits {T : Type} (highlight : Bool) (mapper : Hit → T) (hits : List Hit) : List T :=
  hits.map fun hit => mapper (if highlight then hit else { hit with highlight := [] })

/-- A catalog and settings, which answers are made uniform with. -/
structure ResponseNormalizer (P : Type) [SearchParameter P] where
  catalog : FieldCatalog P
  settings : Settings

namespace ResponseNormalizer

variable {T : Type}

/-- The name of the aggregation inside the filter aggregation of a field. -/
def innerName (normalizer : ResponseNormalizer P) (field : String) : String :=
  normalizer.settings.filteredAggregationMark ++ field

/-- The field of an aggregation's name. -/
def fieldOf (normalizer : ResponseNormalizer P) (name : String) : String :=
  match Text.stripStart? normalizer.settings.filteredAggregationMark.toList name.toList with
  | some field => String.ofList field
  | none => name

/-- The buckets of a field: those of its aggregation, or those of the aggregation inside it. -/
def buckets (normalizer : ResponseNormalizer P) (field : String) :
    RawAggregation → Except SearchError (List Bucket)
  | .terms buckets => .ok buckets
  | .filter _ inner =>
      let name := normalizer.innerName field
      match inner.find? fun aggregation => aggregation.1 == name with
      | none => .error (.response (.missingInner field name))
      | some (_, .terms buckets) => .ok buckets
      | some (_, .filter _ _) => .error (.response (.innerNotTerms name))

def facetCount (normalizer : ResponseNormalizer P) (parameter : P) (bucket : Bucket) :
    FacetCount :=
  ⟨normalizer.catalog.indexedValue parameter bucket.key.asText, bucket.count⟩

def page (normalizer : ResponseNormalizer P) (request : FacetedSearchRequest P) (parameter : P)
    (buckets : List Bucket) : List Bucket :=
  (buckets.drop (request.facetOffsetFor parameter).toNat).take
    (request.facetLimitFor parameter normalizer.settings.defaultFacetLimit).toNat

/-- The facet of an aggregation; aggregations of unknown fields have none. -/
def facet? (normalizer : ResponseNormalizer P) (request : FacetedSearchRequest P)
    (aggregation : String × RawAggregation) : Except SearchError (Option (Facet P)) :=
  let field := normalizer.fieldOf aggregation.1
  match normalizer.catalog.parameterFor field with
  | none => .ok none
  | some parameter =>
      (normalizer.buckets field aggregation.2).map fun buckets =>
        some
          ⟨parameter,
            (normalizer.page request parameter buckets).map (normalizer.facetCount parameter)⟩

/-- The facets of some aggregations, in their order. -/
def facetsOf (normalizer : ResponseNormalizer P) (request : FacetedSearchRequest P) :
    List (String × RawAggregation) → Except SearchError (List (Facet P))
  | [] => .ok []
  | aggregation :: rest =>
      match normalizer.facet? request aggregation with
      | .error error => .error error
      | .ok none => normalizer.facetsOf request rest
      | .ok (some facet) => (normalizer.facetsOf request rest).map (facet :: ·)

/-- The facets of some aggregations, requested ones first and in order of the request. -/
def facets (normalizer : ResponseNormalizer P) (request : FacetedSearchRequest P)
    (aggregations : List (String × RawAggregation)) : Except SearchError (List (Facet P)) :=
  (normalizer.facetsOf request aggregations).map
    (sortBy fun facet =>
      request.facets.findIdx fun requested => decide (requested = facet.parameter))

/-- The answer to a request for hits. Aggregations are ignored. -/
def normalize (normalizer : ResponseNormalizer P) (request : SearchRequest P) (mapper : Hit → T)
    (raw : RawResult) : UniformResponse T P where
  offset := request.offset
  limit := normalizer.settings.pageSize request.limit
  count := raw.total
  results := mapHits request.highlight mapper raw.hits
  facets := []
  spelling := raw.spelling.map SpellCheck.ofRaw

/-- The answer to a request for hits and facets. -/
def normalizeFaceted (normalizer : ResponseNormalizer P) (request : FacetedSearchRequest P)
    (mapper : Hit → T) (raw : RawResult) : Except SearchError (UniformResponse T P) :=
  (normalizer.facets request raw.aggregations).map fun facets =>
    let response := normalizer.normalize request.request mapper raw
    { response with
      limit := if request.facetsOnly then 0 else response.limit
      facets := facets }

end ResponseNormalizer

end FacetedSearch
