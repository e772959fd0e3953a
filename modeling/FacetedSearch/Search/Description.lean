import FacetedSearch.Json.Access
import FacetedSearch.Search.Completion

/-!
Contract: compiled requests as JSON values, for those who want to see what a request became.

Owns: the JSON values of compiled searches with their plans, and of compiled requests for
unfinished words.
Does not own: the languages of engines.
-/

namespace FacetedSearch

open Json

variable {P : Type} [SearchParameter P]

/-- A field to sort by as a JSON value. -/
def SortField.toJson (sort : SortField) : Value :=
  .ofStrings [sort.field, sort.direction.name]

def SortKey.toJson : SortKey → Value
  | .score => .string "score"
  | .field sort => sort.toJson

def SourceFilter.toJson (source : SourceFilter) : Value :=
  .object [("includes", .ofStrings source.includes), ("excludes", .ofStrings source.excludes)]

def HighlightPlan.toJson (plan : HighlightPlan) : Value :=
  .object
    [("pre_tag", .string plan.settings.openingTag),
     ("post_tag", .string plan.settings.closingTag),
     ("fields", .ofStrings plan.fields),
     ("number_of_fragments", .ofWord plan.settings.fragmentCount),
     ("snippets", .ofWord plan.settings.snippets),
     ("fragment_size", .ofWord plan.settings.fragmentSize),
     ("encoder", .string encoder),
     ("highlighter", .string highlighter),
     ("require_field_match", .boolean requiresFieldMatch)]

/-- The buckets of a facet as a JSON value. -/
def TermsAggregation.toJson (terms : TermsAggregation P) : Value :=
  .object
    [("parameter", .string (SearchParameter.name terms.parameter)),
     ("field", .string terms.field),
     ("size", .ofWord terms.size),
     ("offset", .ofWord terms.offset),
     ("limit", .ofWord terms.limit),
     ("min_count", orNull (fun count => .ofNat count.toNat) terms.minCount)]

/-- The buckets of a facet inside a filter as a JSON value. -/
def MultiSelectFacet.toJson (facet : MultiSelectFacet P) : Value :=
  .object
    [("terms", facet.terms.toJson),
     ("exclusion_filter", .array (QueryNode.allToJson facet.exclusionFilter))]

def AggregationPlan.toJson : AggregationPlan P → Value
  | .none => .single "none" (.boolean true)
  | .simple terms => .single "simple" (.array (terms.map TermsAggregation.toJson))
  | .multiSelect facets => .single "multi_select" (.array (facets.map MultiSelectFacet.toJson))

def CompiledSearch.toJson (search : CompiledSearch P) : Value :=
  .object
    [("query", orNull BoolQuery.toJson search.query),
     ("match_all", .boolean search.isMatchAll),
     ("multi_select", .boolean search.isMultiSelect),
     ("post_filter", .array (QueryNode.allToJson search.postFilter)),
     ("aggregations", search.aggregations.toJson),
     ("from", .ofWord search.offset),
     ("size", .ofWord search.size),
     ("sort", .array (search.sort.map SortKey.toJson)),
     ("highlight", orNull HighlightPlan.toJson search.highlight),
     ("source", search.source.toJson),
     ("track_total_hits", .boolean search.trackTotalHits)]

/-- A compiled request for documents by the beginning of a field's text as a JSON value. -/
def CompiledAutocomplete.toJson (request : CompiledAutocomplete) : Value :=
  .object
    [("field", .string request.field),
     ("prefix_field", .string request.wholeField),
     ("text", orNull .string request.text),
     ("prefix_clause", .boolean request.prefersBeginnings),
     ("filter", orNull BoolQuery.toJson request.filter),
     ("from", .ofWord request.offset),
     ("size", .ofWord request.size),
     ("source", request.source.toJson)]

/-- A compiled request for completions as a JSON value. -/
def CompiledSuggest.toJson (request : CompiledSuggest) : Value :=
  .object
    [("field", .string request.field),
     ("prefix", .string request.beginning),
     ("size", .ofWord request.size),
     ("skip_duplicates", .boolean request.skipDuplicates),
     ("source", request.source.toJson)]

end FacetedSearch
