import FacetedSearch.Engine.Elasticsearch.Body
import FacetedSearch.Proofs.Json.Members

/-!
Contract: the aggregations in the body of a search.

Owns:
- `namedAggregations`, the aggregations of a plan, each under the name of its field;
- `member?_aggs_searchBody`: a body has exactly these aggregations, sorted, and none without a plan;
- `Asks` and `asks_of_mem`: what a body asks for under a name;
- `Nests` and `nests_of_mem`: the filter inside which a facet is counted, in the words of the query
  language.

Does not own: the other members of bodies, and the answers to them.
-/

namespace FacetedSearch.Elasticsearch

open Json

variable {P : Type}

/-- The aggregations of a plan, each with its name, in the order of the plan. -/
def namedAggregations (mark : String) : AggregationPlan P → List (String × Value)
  | .none => []
  | .simple terms => terms.map fun terms => (terms.field, termsAggregation terms)
  | .multiSelect facets =>
      facets.map fun facet => (facet.terms.field, filterAggregation mark facet)

theorem map_fst_namedAggregations (mark : String) (plan : AggregationPlan P) :
    (namedAggregations mark plan).map Prod.fst = plan.terms.map TermsAggregation.field := by
  cases plan with
  | none => rfl
  | simple terms => simp [namedAggregations, AggregationPlan.terms]
  | multiSelect facets => simp [namedAggregations, AggregationPlan.terms]

/-- A filter holds its buckets under its own name after the mark. -/
theorem eq_mark_append_of_mem_namedAggregations {mark : String} {plan : AggregationPlan P}
    {name inner : String} {query request : Value}
    (member : (name, Value.object [("filter", query), ("aggs", .single inner request)]) ∈
      namedAggregations mark plan) : inner = mark ++ name := by
  cases plan with
  | none => cases member
  | simple terms =>
      obtain ⟨_, -, same⟩ := List.mem_map.1 member
      simp [termsAggregation, Value.single] at same
  | multiSelect facets =>
      obtain ⟨facet, -, same⟩ := List.mem_map.1 member
      simp only [filterAggregation, Value.single, Prod.mk.injEq, Value.object.injEq,
        List.cons.injEq, and_true, true_and] at same
      rw [← same.1, ← same.2.2.1]

/-- No other member of a body has the name of the aggregations. -/
theorem member?_aggs_searchBody (settings : Settings) (search : CompiledSearch P) :
    (searchBody settings search).member? "aggs" =
      aggregations settings.filteredAggregationMark search.aggregations := by
  have noSort : Value.memberOf? "aggs" (listMember "sort" (search.sort.map sortKey)) = none := by
    unfold listMember
    split <;> rfl
  have noPostFilter :
      Value.memberOf? "aggs"
        (if search.postFilter.isEmpty then []
          else [("post_filter", filterQuery search.postFilter)]) = none := by
    split <;> rfl
  have noHighlight :
      Value.memberOf? "aggs"
        (search.highlight.map fun plan => ("highlight", highlight plan)).toList = none := by
    cases search.highlight <;> rfl
  have plain :
      Value.memberOf? "aggs"
        [("from", .ofWord search.offset),
          ("size", .ofWord search.size),
          ("track_total_hits", .boolean search.trackTotalHits),
          ("_source", sourceFilter search.source),
          ("query", (search.query.map boolQuery).getD matchAll)] = none := rfl
  unfold searchBody Value.member?
  simp only [Value.memberOf?_append, noSort, noPostFilter, noHighlight, plain, Option.none_or,
    Option.or_none]
  cases aggregations settings.filteredAggregationMark search.aggregations <;> rfl

theorem members?_aggregations (mark : String) (plan : AggregationPlan P) :
    ((aggregations mark plan).bind Value.members?).getD [] =
      sortMembers (namedAggregations mark plan) := by
  cases plan with
  | none => rfl
  | simple terms => rfl
  | multiSelect facets => rfl

/-! ## Single aggregations -/

/-- Whether a body asks for an aggregation under a name. -/
def Asks (body : Value) (name : String) (aggregation : Value) : Prop :=
  ((body.member? "aggs").bind fun aggregations => aggregations.member? name) = some aggregation

/-- A body asks for each aggregation of its plan, if no other one has its name. -/
theorem asks_of_mem {settings : Settings} {search : CompiledSearch P} {name : String}
    {aggregation : Value}
    (member : (name, aggregation) ∈
      namedAggregations settings.filteredAggregationMark search.aggregations)
    (single : ∀ other ∈ namedAggregations settings.filteredAggregationMark search.aggregations,
      other.1 = name → other.2 = aggregation) :
    Asks (searchBody settings search) name aggregation := by
  have found := Value.memberOf?_sortMembers_eq_some (List.mem_map_of_mem member) single
  rw [Asks, member?_aggs_searchBody]
  cases plan : search.aggregations with
  | none =>
      rw [plan] at member
      cases member
  | simple terms =>
      rw [plan] at found
      exact found
  | multiSelect facets =>
      rw [plan] at found
      exact found

/-! ## Filters of aggregations -/

theorem nodeQueries_eq_map (nodes : List QueryNode) : nodeQueries nodes = nodes.map nodeQuery := by
  induction nodes with
  | nil => rfl
  | cons node rest inductionHypothesis => rw [nodeQueries, inductionHypothesis, List.map_cons]

/-- Whether a body has an aggregation inside a filter, under a name. -/
def Nests (body : Value) (name : String) (filter : Value) (inner : String)
    (aggregation : Value) : Prop :=
  ((body.member? "aggs").bind fun aggregations => aggregations.member? name) =
    some (.object [("filter", filter), ("aggs", .object [(inner, aggregation)])])

/-- A facet's buckets are counted inside a filter by the queries of all its trees, if no other facet
has its field. -/
theorem nests_of_mem {settings : Settings} {search : CompiledSearch P}
    {facets : List (MultiSelectFacet P)} (plan : search.aggregations = .multiSelect facets)
    {facet : MultiSelectFacet P} (member : facet ∈ facets)
    (single : ∀ other ∈ facets, other.terms.field = facet.terms.field → other = facet) :
    Nests (searchBody settings search) facet.terms.field
      (.object [("bool", .object [("filter", .array (facet.exclusionFilter.map nodeQuery))])])
      (settings.filteredAggregationMark ++ facet.terms.field)
      (.object
        [("terms", .object
          ([("field", .string facet.terms.field), ("size", .ofWord facet.terms.size)] ++
            (facet.terms.minCount.map fun count =>
              ("min_doc_count", Value.ofNat count.toNat)).toList))]) := by
  have asked : Asks (searchBody settings search) facet.terms.field
      (filterAggregation settings.filteredAggregationMark facet) := by
    apply asks_of_mem
    · rw [plan]
      exact List.mem_map.2 ⟨facet, member, rfl⟩
    · rw [plan]
      intro other isNamed sameName
      obtain ⟨otherFacet, isOther, rfl⟩ := List.mem_map.1 isNamed
      rw [single otherFacet isOther sameName]
  rw [← nodeQueries_eq_map]
  exact asked

end FacetedSearch.Elasticsearch
