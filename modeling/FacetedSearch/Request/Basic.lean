import FacetedSearch.Catalog.Basic
import FacetedSearch.Filter.RawValues
import FacetedSearch.Keyed
import FacetedSearch.Settings.Basic
import FacetedSearch.Text.Blank

/-!
Contract: what callers ask for.

Owns:
- `SearchRequest`, a page of hits for a free text and filters;
- `FacetedSearchRequest`, such a request with facets, each with a page of its values;
- the free text that counts, and the page that holds for a facet.

Does not own: the order of filters, since a request has none.
-/

namespace FacetedSearch

variable {P : Type} [SearchParameter P]

/-- The raw values that are selected for each parameter. -/
abbrev ParameterValues (P : Type) := Keyed P RawValues

/-- A request for a page of hits. -/
structure SearchRequest (P : Type) [SearchParameter P] where
  freeText : Option String := none
  offset : UInt64 := 0
  limit : Option UInt64 := none
  highlight : Bool := false
  /-- The order of hits; none stands for the usual one. -/
  sort : List SortField := []
  parameters : ParameterValues P := .empty

namespace SearchRequest

instance : Inhabited (SearchRequest P) :=
  ⟨{}⟩

/-- The request with a raw value added for a parameter. -/
def addParameter (request : SearchRequest P) (parameter : P) (value : String) : SearchRequest P :=
  let selected := (request.parameters.find? parameter).getD .empty
  { request with parameters := request.parameters.insert parameter (selected.insert value) }

/-- The free text without the blanks around it, if anything is left. -/
def trimmedText? (request : SearchRequest P) : Option String :=
  (request.freeText.map Text.trim).filter fun text => text != ""

def isMatchAll (request : SearchRequest P) (settings : Settings) : Bool :=
  request.trimmedText? == some settings.matchAllSentinel

end SearchRequest

/-- A page of the values of a facet. -/
structure FacetPage where
  offset : Option UInt64
  limit : Option UInt64
deriving DecidableEq, Repr

/-- A request for a page of hits and for facets. -/
structure FacetedSearchRequest (P : Type) [SearchParameter P] where
  request : SearchRequest P := {}
  /-- The requested facets, in the order of the answer. -/
  facets : List P := []
  /-- Whether the values of a facet are counted without regard to its own selection. -/
  multiSelectFacets : Bool := false
  facetMinCount : Option UInt32 := none
  /-- Whether the answer holds no hits. -/
  facetsOnly : Bool := false
  facetOffset : Option UInt64 := none
  facetLimit : Option UInt64 := none
  /-- Pages of single facets. -/
  facetPages : Keyed P FacetPage := .empty

namespace FacetedSearchRequest

instance : Inhabited (FacetedSearchRequest P) :=
  ⟨{}⟩

/-- The request with a facet added, unless it is there. -/
def addFacet (request : FacetedSearchRequest P) (facet : P) : FacetedSearchRequest P :=
  if request.facets.contains facet then request
  else { request with facets := request.facets ++ [facet] }

/-- The number of values of a facet that are skipped. -/
def facetOffsetFor (request : FacetedSearchRequest P) (facet : P) : UInt64 :=
  ((((request.facetPages.find? facet).bind FacetPage.offset).or request.facetOffset).getD 0)

/-- The number of values of a facet that are kept. -/
def facetLimitFor (request : FacetedSearchRequest P) (facet : P) (default : UInt64) : UInt64 :=
  ((((request.facetPages.find? facet).bind FacetPage.limit).or request.facetLimit).getD default)

end FacetedSearchRequest

end FacetedSearch
