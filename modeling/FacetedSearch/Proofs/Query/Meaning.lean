import FacetedSearch.Search.Compiled

/-!
Contract: which documents meet queries.

Owns:
- `DocumentFacts`, what queries can ask of a document, and `QueryNode.Holds`, the truth of a tree;
- the clauses and filters of optional queries;
- `CompiledSearch.Hits`, the documents that a search returns, and `CompiledSearch.Counts`, those
  that it counts for a facet. Engines count facets among the documents of the main query that meet
  the filter of the facet's aggregation; filters of the hits do not matter to facets.

The truth of single statements is arbitrary. Facts that need more of it say so.

Does not own: the languages of engines.
-/

namespace FacetedSearch

variable {P : Type} [SearchParameter P]

/-- What queries can ask of a document. -/
structure DocumentFacts where
  /-- Whether a free-text clause matches. -/
  matched : FullTextClause → Prop
  /-- Whether a statement about a field is true. -/
  truth : FilterPredicate → Prop

/-! ## Trees -/

namespace QueryNode

mutual

/-- The truth of a tree. -/
def Holds (truth : FilterPredicate → Prop) : QueryNode → Prop
  | .predicate statement => truth statement
  | .not inner => ¬ Holds truth inner
  | .or nodes => SomeHold truth nodes
  | .and nodes => AllHold truth nodes

def SomeHold (truth : FilterPredicate → Prop) : List QueryNode → Prop
  | [] => False
  | node :: rest => Holds truth node ∨ SomeHold truth rest

def AllHold (truth : FilterPredicate → Prop) : List QueryNode → Prop
  | [] => True
  | node :: rest => Holds truth node ∧ AllHold truth rest

end

theorem someHold_iff (truth : FilterPredicate → Prop) (nodes : List QueryNode) :
    SomeHold truth nodes ↔ ∃ node ∈ nodes, node.Holds truth := by
  induction nodes with
  | nil => simp [SomeHold]
  | cons node rest inductionHypothesis => simp [SomeHold, inductionHypothesis]

theorem allHold_iff (truth : FilterPredicate → Prop) (nodes : List QueryNode) :
    AllHold truth nodes ↔ ∀ node ∈ nodes, node.Holds truth := by
  induction nodes with
  | nil => simp [AllHold]
  | cons node rest inductionHypothesis => simp [AllHold, inductionHypothesis]

end QueryNode

/-! ## Queries -/

/-- Whether a document matches all clauses and meets all filters. -/
def DocumentFacts.Meets (facts : DocumentFacts) (clauses : List FullTextClause)
    (filters : List QueryNode) : Prop :=
  (∀ clause ∈ clauses, facts.matched clause) ∧ QueryNode.AllHold facts.truth filters

theorem DocumentFacts.meets_congr (facts : DocumentFacts) {left right : List FullTextClause}
    {leftFilters rightFilters : List QueryNode} (clauses : left = right)
    (filters : leftFilters.Perm rightFilters) :
    facts.Meets left leftFilters ↔ facts.Meets right rightFilters := by
  rw [Meets, Meets, clauses, QueryNode.allHold_iff, QueryNode.allHold_iff]
  exact and_congr_right fun _ => forall_congr' fun node => imp_congr_left filters.mem_iff

namespace BoolQuery

/-- The clauses of a query for free text; no query has none. -/
def clausesOf (query : Option BoolQuery) : List FullTextClause :=
  (query.map must).getD []

/-- The filters of a query; no query has none. -/
def filtersOf (query : Option BoolQuery) : List QueryNode :=
  (query.map filter).getD []

end BoolQuery

namespace CompiledSearch

/-- The clauses of a search for free text. -/
def clauses (search : CompiledSearch P) : List FullTextClause :=
  BoolQuery.clausesOf search.query

/-- The filters of a search's main query. -/
def queryFilters (search : CompiledSearch P) : List QueryNode :=
  BoolQuery.filtersOf search.query

/-- Whether a document is a hit. -/
def Hits (search : CompiledSearch P) (facts : DocumentFacts) : Prop :=
  facts.Meets search.clauses (search.queryFilters ++ search.postFilter)

/-- Whether a document is counted for a facet. -/
def Counts (search : CompiledSearch P) (facet : MultiSelectFacet P) (facts : DocumentFacts) :
    Prop :=
  facts.Meets search.clauses (search.queryFilters ++ facet.exclusionFilter)

end CompiledSearch

end FacetedSearch
