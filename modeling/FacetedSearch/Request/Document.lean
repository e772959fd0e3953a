import FacetedSearch.Json.Access
import FacetedSearch.Request.Basic

/-!
Contract: requests in JSON.

Owns: the reading of requests for hits and for facets, given the parameters by their names. What is
absent has its default, and facets that are named twice count once.
Does not own: the names of parameters.
-/

namespace FacetedSearch

open Json

variable {P : Type} [SearchParameter P]

def SortDirection.ofJson? (value : Value) : Option SortDirection :=
  value.string?.bind SortDirection.ofName?

/-- Reads a field to sort by: the field and the name of its direction. -/
def SortField.ofJson? (value : Value) : Option SortField :=
  match value with
  | .array [.string field, direction] =>
      (SortDirection.ofJson? direction).map fun direction => ⟨field, direction⟩
  | _ => none

def FacetPage.ofJson? (value : Value) : Option FacetPage := do
  return ⟨← value.optional? "offset" Value.word?, ← value.optional? "limit" Value.word?⟩

/-- Reads something for each named parameter. -/
def readKeyed? {α : Type} (parameter? : String → Option P) (read : Value → Option α)
    (members : List (String × Value)) : Option (Keyed P α) :=
  let entry? (member : String × Value) : Option (P × α) := do
    return (← parameter? member.1, ← read member.2)
  (members.mapM entry?).map Keyed.ofEntries

def SearchRequest.ofJson? (parameter? : String → Option P) (value : Value) :
    Option (SearchRequest P) := do
  return {
    freeText := ← value.optional? "q" Value.string?
    offset := ← value.defaulted? "offset" 0 Value.word?
    limit := ← value.optional? "limit" Value.word?
    highlight := ← value.flag? "highlight"
    sort := ← value.list? "sort" SortField.ofJson?
    parameters :=
      ← readKeyed? parameter? (fun raw => raw.strings?.map RawValues.ofList)
        (← value.table? "parameters") }

def FacetedSearchRequest.ofJson? (parameter? : String → Option P) (value : Value) :
    Option (FacetedSearchRequest P) := do
  let facets ← value.list? "facets" fun name => name.string?.bind parameter?
  let request : FacetedSearchRequest P :=
    { request := ← SearchRequest.ofJson? parameter? value
      multiSelectFacets := ← value.flag? "multi_select"
      facetMinCount := ← value.optional? "facet_min_count" Value.halfWord?
      facetsOnly := ← value.flag? "facets_only"
      facetOffset := ← value.optional? "facet_offset" Value.word?
      facetLimit := ← value.optional? "facet_limit" Value.word?
      facetPages := ← readKeyed? parameter? FacetPage.ofJson? (← value.table? "facet_pages") }
  return facets.foldl addFacet request

end FacetedSearch
