import FacetedSearch.Query.Compilation

/-!
Contract: facets of a request as aggregations over a main query.

Owns:
- `TermsAggregation`, the buckets that a facet asks for and the page that is kept of them;
- `AggregationPlan`: plain aggregations, or aggregations inside filters by the selections on all
  other facets;
- `SearchCompiler.facetPlan`, which also splits the filters between the main query and the filters
  that apply to hits only.

Filters on requested facets leave the main query only if the request asks for it, two facets have
a field, and some filter is on a requested facet.

Does not own: the compilation of filters.
-/

namespace FacetedSearch

variable {P : Type} [SearchParameter P]

/-- The buckets of a facet. -/
structure TermsAggregation (P : Type) where
  parameter : P
  field : String
  /-- The number of buckets that an engine is asked for. -/
  size : UInt64
  /-- The number of buckets that are skipped. -/
  offset : UInt64
  /-- The number of buckets that are kept after those. -/
  limit : UInt64
  minCount : Option UInt32

/-- The buckets of a facet among the documents that the selections on all other facets select. -/
structure MultiSelectFacet (P : Type) where
  terms : TermsAggregation P
  /-- Documents have to meet all of these. -/
  exclusionFilter : List QueryNode

/-- The aggregations of a request. -/
inductive AggregationPlan (P : Type) where
  | none
  | simple (terms : List (TermsAggregation P))
  | multiSelect (facets : List (MultiSelectFacet P))

namespace AggregationPlan

/-- Whether the selections on other facets are filters of aggregations. -/
def isMultiSelect : AggregationPlan P → Bool
  | .multiSelect _ => true
  | _ => false

/-- The buckets of all facets, in order of the request. -/
def terms : AggregationPlan P → List (TermsAggregation P)
  | .none => []
  | .simple terms => terms
  | .multiSelect facets => facets.map MultiSelectFacet.terms

/-- The buckets of a parameter. -/
def termsFor? (plan : AggregationPlan P) (parameter : P) : Option (TermsAggregation P) :=
  plan.terms.find? fun terms => decide (terms.parameter = parameter)

end AggregationPlan

/-- Aggregations and the split of the filters. -/
structure FacetPlan (P : Type) where
  aggregations : AggregationPlan P
  /-- Filters of the main query. -/
  queryParameters : ParameterValues P
  /-- Filters of the hits; hits have to meet all of these. -/
  postFilter : List QueryNode

/-- The sum of two words, the greatest word if it is too large. -/
def addCapped (left right : UInt64) : UInt64 :=
  (min (left.toNat + right.toNat) Numeral.maxWord).toUInt64

namespace SearchCompiler

/-- The number of buckets that cover a page of a field. -/
def aggregationSize (compiler : SearchCompiler P) (field : String) (offset limit : UInt64) :
    Except SearchError UInt64 :=
  let wanted := addCapped offset limit
  let size := min wanted ((compiler.catalog.cardinalityOf field).getD Numeral.maxWord.toUInt64)
  let ceiling := compiler.settings.maxFacetSize
  if size > ceiling then .error (.facetTooLarge ceiling) else .ok size

def termsAggregation (compiler : SearchCompiler P) (request : FacetedSearchRequest P)
    (facet : P × String) : Except SearchError (TermsAggregation P) :=
  let offset := request.facetOffsetFor facet.1
  let limit := request.facetLimitFor facet.1 compiler.settings.defaultFacetLimit
  (compiler.aggregationSize facet.2 offset limit).map fun size =>
    ⟨facet.1, facet.2, size, offset, limit, request.facetMinCount⟩

/-- The facets of a request that have a field. -/
def mappedFacets (compiler : SearchCompiler P) (request : FacetedSearchRequest P) :
    List (P × String) :=
  request.facets.filterMap fun facet =>
    (compiler.catalog.fieldFor facet).map fun field => (facet, field)

/-- The filters of a request that count. -/
def activeParameters (compiler : SearchCompiler P) (request : FacetedSearchRequest P) :
    ParameterValues P :=
  if compiler.isMatchAll request.request.freeText then .empty else request.request.parameters

/-- A facet's buckets among the selections on all other facets. -/
def multiSelectFacet (selections : List (P × QueryNode)) (terms : TermsAggregation P) :
    MultiSelectFacet P :=
  ⟨terms, (selections.filter fun selection => decide (selection.1 ≠ terms.parameter)).map Prod.snd⟩

/-- The aggregations of a request and the split of its filters. -/
def facetPlan (compiler : SearchCompiler P) (request : FacetedSearchRequest P) :
    Except SearchError (FacetPlan P) :=
  let facets := compiler.mappedFacets request
  let active := compiler.activeParameters request
  if facets.isEmpty then .ok ⟨.none, active, []⟩
  else
    match facets.mapM (compiler.termsAggregation request) with
    | .error error => .error error
    | .ok terms =>
        let onFacets := active.filterKeys request.facets.contains
        let others := active.filterKeys fun parameter => !request.facets.contains parameter
        if !request.multiSelectFacets || facets.length < 2 || onFacets.entries.isEmpty then
          .ok ⟨.simple terms, active, []⟩
        else
          (compiler.filtersOf onFacets.entries).map fun found =>
            let selections := sortBy (fun selection => SearchParameter.name selection.1) found
            ⟨.multiSelect (terms.map (multiSelectFacet selections)), others,
              selections.map Prod.snd⟩

end SearchCompiler

end FacetedSearch
