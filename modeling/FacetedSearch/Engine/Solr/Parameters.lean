import FacetedSearch.Engine.Solr.FilterQuery
import FacetedSearch.Search.Compiled

/-!
Contract: compiled searches as request parameters of Solr.

Owns:
- `TaggedFilter`, a filter and the tag by which facets can leave it out;
- `FacetField`, a field whose values are counted, and the tag that it leaves out;
- `searchParameters`, all parameters in order.

If selections on other facets count, each filter of the hits carries the tag of its field, and each
facet leaves out the filters with the tag of its own field. Facets are always counted from the
first value on, since their pages are cut from the answer.

Does not own: the expressions of filters.
-/

namespace FacetedSearch.Solr

variable {P : Type} [SearchParameter P]

abbrev Parameter := String × String

/-- A filter with the field whose tag it carries. -/
structure TaggedFilter where
  field : Option String
  node : QueryNode

/-- A field whose values are counted. -/
structure FacetField where
  field : String
  /-- Whether filters with the tag of the field are left out. -/
  leavesOutOwnTag : Bool
  limit : UInt64
deriving DecidableEq, Repr

def tagName (field : String) : String :=
  "ffq" ++ field

/-- A local parameter in front of an expression. -/
def localParameter (name value : String) : String :=
  String.ofList ['\x7b', '!'] ++ name ++ "=" ++ value ++ String.ofList ['\x7d']

def postFilter (multiSelect : Bool) (node : QueryNode) : TaggedFilter :=
  ⟨if multiSelect then node.predicates.head?.map FilterPredicate.field else none, node⟩

/-- The filters of a search: those of the query, then those of the hits. -/
def filters (search : CompiledSearch P) : List TaggedFilter :=
  ((search.query.map BoolQuery.filter).getD []).map (fun node => ⟨none, node⟩) ++
    search.postFilter.map (postFilter search.isMultiSelect)

/-- The fields of a plan whose values are counted. -/
def facetFields (plan : AggregationPlan P) : List FacetField :=
  plan.terms.map fun terms => ⟨terms.field, plan.isMultiSelect, terms.size⟩

def TaggedFilter.parameter (filter : TaggedFilter) : Parameter :=
  let expression := String.ofList (filterQuery filter.node)
  ("fq",
    match filter.field with
    | some field => localParameter "tag" (tagName field) ++ expression
    | none => expression)

/-- The parameters of a field whose values are counted. -/
def FacetField.parameters (facet : FacetField) : List Parameter :=
  let field := facet.field
  [("facet.field",
    if facet.leavesOutOwnTag then localParameter "ex" (tagName field) ++ field else field),
   ("f." ++ field ++ ".facet.offset", "0"),
   ("f." ++ field ++ ".facet.limit", toString facet.limit.toNat)]

/-- The least count of a plan's facets: the first one that is stated, or the one of the
settings. -/
def leastCount (settings : Settings) (plan : AggregationPlan P) : UInt32 :=
  (plan.terms.findSome? TermsAggregation.minCount).getD settings.defaultFacetMinCount

def facetParameters (settings : Settings) (plan : AggregationPlan P) : List Parameter :=
  if plan.terms.isEmpty then []
  else
    [("facet", "true"),
     ("facet.mincount", toString (leastCount settings plan).toNat),
     ("facet.missing", "false"),
     ("facet.sort", "count")] ++
      (facetFields plan).flatMap FacetField.parameters

def highlightParameters (plan : HighlightPlan) : List Parameter :=
  [("hl", "true"),
   ("hl.fl", ",".intercalate plan.fields),
   ("hl.simple.pre", plan.settings.openingTag),
   ("hl.simple.post", plan.settings.closingTag),
   ("hl.snippets", toString plan.settings.snippets.toNat),
   ("hl.fragsize", toString plan.settings.fragmentSize.toNat)]

def sortKey : SortKey → String
  | .score => "score desc"
  | .field sort => sort.field ++ " " ++ sort.direction.name

def sortParameters (keys : List SortKey) : List Parameter :=
  if keys.isEmpty then [] else [("sort", ",".intercalate (keys.map sortKey))]

def searchParameters (settings : Settings) (search : CompiledSearch P) : List Parameter :=
  [("q", mainQuery search.query),
   ("q.alt", FullText.matchAllQuery),
   ("start", toString search.offset.toNat),
   ("rows", toString search.size.toNat)] ++
    (filters search).map TaggedFilter.parameter ++
    facetParameters settings search.aggregations ++
    (search.highlight.map highlightParameters).getD [] ++
    sortParameters search.sort

end FacetedSearch.Solr
