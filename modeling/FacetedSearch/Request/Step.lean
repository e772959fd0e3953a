import FacetedSearch.Request.Basic

/-!
Contract: requests stated step by step.

Owns: the steps of plain and of faceted requests and what each adds.
Does not own: requests that are given as a whole.
-/

namespace FacetedSearch

variable {P : Type} [SearchParameter P]

/-- One step by which a caller states a request for hits. -/
inductive RequestStep (P : Type) where
  | freeText (text : String)
  | offset (offset : UInt64)
  | limit (limit : UInt64)
  | highlight (enabled : Bool)
  | sort (sort : SortField)
  | parameter (parameter : P) (value : String)
  | parameters (parameter : P) (values : List String)

def SearchRequest.apply (request : SearchRequest P) : RequestStep P → SearchRequest P
  | .freeText text => { request with freeText := some text }
  | .offset offset => { request with offset := offset }
  | .limit limit => { request with limit := some limit }
  | .highlight enabled => { request with highlight := enabled }
  | .sort sort => { request with sort := request.sort ++ [sort] }
  | .parameter parameter value => request.addParameter parameter value
  | .parameters parameter values =>
      values.foldl (fun request value => request.addParameter parameter value) request

/-- One step by which a caller states a request for hits and facets. -/
inductive FacetedRequestStep (P : Type) where
  | plain (step : RequestStep P)
  | facet (facet : P)
  | facets (facets : List P)
  | multiSelect (enabled : Bool)
  | facetMinCount (count : UInt32)
  | facetsOnly (enabled : Bool)
  | facetPaging (offset limit : UInt64)
  | facetPage (facet : P) (offset limit : UInt64)

def FacetedSearchRequest.apply (request : FacetedSearchRequest P) :
    FacetedRequestStep P → FacetedSearchRequest P
  | .plain step => { request with request := request.request.apply step }
  | .facet facet => request.addFacet facet
  | .facets facets => facets.foldl addFacet request
  | .multiSelect enabled => { request with multiSelectFacets := enabled }
  | .facetMinCount count => { request with facetMinCount := some count }
  | .facetsOnly enabled => { request with facetsOnly := enabled }
  | .facetPaging offset limit =>
      { request with facetOffset := some offset, facetLimit := some limit }
  | .facetPage facet offset limit =>
      { request with facetPages := request.facetPages.insert facet ⟨some offset, some limit⟩ }

end FacetedSearch
