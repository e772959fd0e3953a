import FacetedSearch.Search.Completion
import FacetedSearch.Text.Case

/-!
Contract: compiled requests as bodies in the query language of Elasticsearch.

Owns:
- the queries of statements, trees, clauses and lists of filters;
- aggregations, each under the name of its field, and inside a filter under that name after the
  mark of the settings;
- the bodies of searches, of requests for unfinished words, and of requests for completions.

Does not own: sending bodies.
-/

namespace FacetedSearch.Elasticsearch

open Json

variable {P : Type} [SearchParameter P]

/-- The object with one member whose value is an object with one member. -/
def nested (outer inner : String) (value : Value) : Value :=
  .single outer (.single inner value)

/-! ## Queries -/

def boundMembers (lower upper : Option TypedValue) : List (String × Value) :=
  (lower.map fun value => ("gte", value.toJson)).toList ++
    (upper.map fun value => ("lte", value.toJson)).toList

def predicateQuery : FilterPredicate → Value
  | .equality field value => nested "term" field value.toJson
  | .multiEquality field values => nested "terms" field (.array (values.map TypedValue.toJson))
  | .range field lower upper => nested "range" field (.object (boundMembers lower upper))
  | .spatial field shape =>
      nested "geo_shape" field
        (.object [("shape", .string shape), ("relation", .string "within")])

mutual

def nodeQuery : QueryNode → Value
  | .predicate statement => predicateQuery statement
  | .not inner => nested "bool" "must_not" (.array [nodeQuery inner])
  | .or nodes =>
      .single "bool"
        (.object [("should", .array (nodeQueries nodes)), ("minimum_should_match", .ofNat 1)])
  | .and nodes => nested "bool" "filter" (.array (nodeQueries nodes))

def nodeQueries : List QueryNode → List Value
  | [] => []
  | node :: rest => nodeQuery node :: nodeQueries rest

end

/-- The query of trees that all have to hold. -/
def filterQuery (nodes : List QueryNode) : Value :=
  nested "bool" "filter" (.array (nodeQueries nodes))

def clauseQuery : FullTextClause → Value
  | .match field text => nested "match" field (.single "query" (.string text))
  | .queryString query => nested "query_string" "query" (.string query)

/-- The member with a list of queries, if there are any. -/
def listMember (name : String) (queries : List Value) : List (String × Value) :=
  if queries.isEmpty then [] else [(name, .array queries)]

def boolQuery (query : BoolQuery) : Value :=
  .single "bool"
    (.object
      (listMember "must" (query.must.map clauseQuery) ++
        listMember "filter" (nodeQueries query.filter)))

def matchAll : Value :=
  .single "match_all" (.object [])

/-! ## Bodies -/

def sourceFilter (source : SourceFilter) : Value :=
  .object [("includes", .ofStrings source.includes), ("excludes", .ofStrings source.excludes)]

def sortKey : SortKey → Value
  | .score => nested "_score" "order" (.string "desc")
  | .field sort => nested sort.field "order" (.string sort.direction.name)

def highlight (plan : HighlightPlan) : Value :=
  .object
    [("pre_tags", .ofStrings [plan.settings.openingTag]),
     ("post_tags", .ofStrings [plan.settings.closingTag]),
     ("encoder", .string HighlightPlan.encoder),
     ("type", .string HighlightPlan.highlighter),
     ("require_field_match", .boolean HighlightPlan.requiresFieldMatch),
     ("number_of_fragments", .ofWord plan.settings.fragmentCount),
     ("fields", .ofMembers (plan.fields.map fun field => (field, .object [])))]

def termsAggregation (terms : TermsAggregation P) : Value :=
  .single "terms"
    (.object
      ([("field", .string terms.field), ("size", .ofWord terms.size)] ++
        (terms.minCount.map fun count => ("min_doc_count", Value.ofNat count.toNat)).toList))

/-- The aggregation of a facet's buckets inside a filter. -/
def filterAggregation (mark : String) (facet : MultiSelectFacet P) : Value :=
  .object
    [("filter", filterQuery facet.exclusionFilter),
     ("aggs", .single (mark ++ facet.terms.field) (termsAggregation facet.terms))]

/-- The aggregations of a plan, under the names of their fields; nothing if there is no plan. -/
def aggregations (mark : String) : AggregationPlan P → Option Value
  | .none => none
  | .simple terms =>
      some (.ofMembers (terms.map fun terms => (terms.field, termsAggregation terms)))
  | .multiSelect facets =>
      some (.ofMembers (facets.map fun facet => (facet.terms.field, filterAggregation mark facet)))

def searchBody (settings : Settings) (search : CompiledSearch P) : Value :=
  .object
    ([("from", .ofWord search.offset),
      ("size", .ofWord search.size),
      ("track_total_hits", .boolean search.trackTotalHits),
      ("_source", sourceFilter search.source),
      ("query", (search.query.map boolQuery).getD matchAll)] ++
      listMember "sort" (search.sort.map sortKey) ++
      (if search.postFilter.isEmpty then []
        else [("post_filter", filterQuery search.postFilter)]) ++
      ((aggregations settings.filteredAggregationMark search.aggregations).map
        fun value => ("aggs", value)).toList ++
      (search.highlight.map fun plan => ("highlight", highlight plan)).toList)

/-- How many words from the start of a field a beginning may lie. -/
def beginningSpan : Nat := 3

/-- The boost of documents that begin with the text. -/
def beginningBoost : Double :=
  Floating.ofNat false 100

/-- The query for documents with all words of a text, the last one perhaps unfinished. -/
def wordsQuery (field text : String) : Value :=
  nested "match" field (.object [("query", .string text), ("operator", .string "and")])

/-- The query for documents that begin with the text. -/
def beginningQuery (field text : String) : Value :=
  let lower := String.ofList (Text.toLower text.toList)
  .single "span_first"
    (.object
      [("match",
        nested "span_multi" "match" (nested "prefix" field (.single "value" (.string lower)))),
       ("end", .ofNat beginningSpan),
       ("boost", .ofDouble beginningBoost)])

/-- The queries of which documents should meet one. -/
def autocompleteShould (request : CompiledAutocomplete) : List Value :=
  match request.text with
  | none => []
  | some text =>
      wordsQuery request.field text ::
        if request.prefersBeginnings then [beginningQuery request.wholeField text] else []

/-- The queries that documents have to meet. -/
def autocompleteMust (request : CompiledAutocomplete) : List Value :=
  (if request.text.isNone then [matchAll] else []) ++ (request.filter.map boolQuery).toList

/-- The body of a request for documents by the beginning of a field's text. -/
def autocompleteBody (request : CompiledAutocomplete) : Value :=
  .object
    [("from", .ofWord request.offset),
     ("size", .ofWord request.size),
     ("query",
      .single "bool"
        (.object
          (listMember "must" (autocompleteMust request) ++
            listMember "should" (autocompleteShould request)))),
     ("_source", sourceFilter request.source)]

def suggestBody (request : CompiledSuggest) : Value :=
  .object
    [("suggest",
      .single request.field
        (.object
          [("prefix", .string request.beginning),
           ("completion",
            .object
              [("field", .string request.field),
               ("size", .ofWord request.size),
               ("skip_duplicates", .boolean request.skipDuplicates)])])),
     ("_source", sourceFilter request.source)]

end FacetedSearch.Elasticsearch
