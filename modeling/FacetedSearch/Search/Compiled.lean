import FacetedSearch.Facet.Plan

/-!
Contract: requests compiled for any engine.

Owns:
- `CompiledSearch`, a query, filters of hits, aggregations, a page, an order and the fields of
  answers;
- `SearchCompiler.compileSearch` and `SearchCompiler.compileFaceted`.

Without sort fields in the request, hits are ordered by score if there is a free text and else as
the catalog states. Matches are highlighted only if there is a free text that does not ask for
everything.

Does not own: queries and facet plans by themselves.
-/

namespace FacetedSearch

variable {P : Type} [SearchParameter P]

/-- What hits are ordered by. -/
inductive SortKey where
  /-- The score, greatest first. -/
  | score
  | field (sort : SortField)
deriving DecidableEq, Repr

/-- The marking of matches in answers. -/
structure HighlightPlan where
  settings : HighlightSettings
  fields : List String
deriving DecidableEq, Repr

namespace HighlightPlan

/-- How snippets are made safe to show. -/
def encoder : String :=
  "html"

def highlighter : String :=
  "unified"

/-- Whether only fields that a query names are marked. -/
def requiresFieldMatch : Bool :=
  false

end HighlightPlan

/-- The fields that answers hold and leave out. -/
structure SourceFilter where
  includes : List String
  excludes : List String
deriving DecidableEq, Repr

/-- A request for hits, compiled. -/
structure CompiledSearch (P : Type) where
  /-- Without a query every document matches. -/
  query : Option BoolQuery
  postFilter : List QueryNode
  aggregations : AggregationPlan P
  offset : UInt64
  size : UInt64
  sort : List SortKey
  highlight : Option HighlightPlan
  source : SourceFilter
  trackTotalHits : Bool

namespace CompiledSearch

/-- Whether every document matches. -/
def isMatchAll (search : CompiledSearch P) : Bool :=
  search.query.isNone

/-- Whether the selections on other facets are filters of aggregations. -/
def isMultiSelect (search : CompiledSearch P) : Bool :=
  search.aggregations.isMultiSelect

end CompiledSearch

namespace SearchCompiler

def sortKeys (compiler : SearchCompiler P) (request : SearchRequest P) : List SortKey :=
  if !request.sort.isEmpty then request.sort.map .field
  else if request.trimmedText?.isSome then [.score]
  else compiler.catalog.defaultSortOrder.map .field

/-- The marking of matches, if matches are marked. -/
def highlightPlan (compiler : SearchCompiler P) (request : SearchRequest P) :
    Option HighlightPlan :=
  if request.highlight && request.trimmedText?.isSome && !request.isMatchAll compiler.settings then
    some ⟨compiler.settings.highlight, compiler.catalog.highlightFields⟩
  else none

/-- The fields of hits. -/
def sourceFilter (compiler : SearchCompiler P) : SourceFilter :=
  ⟨compiler.catalog.includedResultFields, compiler.catalog.excludedResultFields⟩

/-- A search with everything that does not depend on facets. -/
def assemble (compiler : SearchCompiler P) (request : SearchRequest P) (query : Option BoolQuery)
    (size : UInt64) (postFilter : List QueryNode) (aggregations : AggregationPlan P) :
    CompiledSearch P where
  query := query
  postFilter := postFilter
  aggregations := aggregations
  offset := request.offset
  size := size
  sort := compiler.sortKeys request
  highlight := compiler.highlightPlan request
  source := compiler.sourceFilter
  trackTotalHits := compiler.settings.trackTotalHits

def compileSearch (compiler : SearchCompiler P) (request : SearchRequest P) :
    Except SearchError (CompiledSearch P) :=
  (compiler.query request.parameters request.freeText).map fun query =>
    compiler.assemble request query (compiler.settings.pageSize request.limit) [] .none

def compileFaceted (compiler : SearchCompiler P) (request : FacetedSearchRequest P) :
    Except SearchError (CompiledSearch P) :=
  match compiler.facetPlan request with
  | .error error => .error error
  | .ok plan =>
      (compiler.query plan.queryParameters request.request.freeText).map fun query =>
        let size :=
          if request.facetsOnly then 0 else compiler.settings.pageSize request.request.limit
        compiler.assemble request.request query size plan.postFilter plan.aggregations

end SearchCompiler

end FacetedSearch
