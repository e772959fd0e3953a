import FacetedSearch.Proofs.Outcome
import FacetedSearch.Proofs.Query.Meaning

/-!
Contract: which trees and clauses a compiled query has.

Owns:
- `Readable` and `treesOf`: whether the raw values of some entries can be read, and the trees that
  they have, entry by entry;
- `filters_eq_ok` and `readable_of_filters_eq_ok`: filters compile exactly if every entry is
  readable, and have the trees of the entries in some order;
- `counted` and `of_query_eq_ok`: a query has the trees of the filters that count beside its free
  text, and the clauses of that text.

Neither `Readable` nor, up to order, `treesOf` depends on the order of the entries. All facts about
splitting and reordering filters rest on that.

Does not own: the tree of a single parameter, and which of several errors is reported.
-/

namespace FacetedSearch

variable {P : Type} [SearchParameter P]

namespace SearchCompiler

/-! ## Trees of entries -/

/-- Whether the raw values of each entry can be read. -/
def Readable (compiler : SearchCompiler P) (entries : List (P × RawValues)) : Prop :=
  ∀ entry ∈ entries, ∃ tree, compiler.parameterFilter entry.1 entry.2 = .ok tree

/-- The parameter and the tree of an entry, if the entry has a tree. -/
def selection? (compiler : SearchCompiler P) (entry : P × RawValues) : Option (P × QueryNode) :=
  match compiler.parameterFilter entry.1 entry.2 with
  | .ok (some tree) => some (entry.1, tree)
  | _ => none

def treesOf (compiler : SearchCompiler P) (entries : List (P × RawValues)) : List QueryNode :=
  (entries.filterMap compiler.selection?).map Prod.snd

theorem of_selection?_eq_some {compiler : SearchCompiler P} {entry : P × RawValues}
    {selection : P × QueryNode} (found : compiler.selection? entry = some selection) :
    selection.1 = entry.1 ∧
      compiler.parameterFilter entry.1 entry.2 = .ok (some selection.2) := by
  unfold selection? at found
  split at found
  · rename_i tree read
    cases found
    exact ⟨rfl, read⟩
  · cases found

theorem Readable.perm {compiler : SearchCompiler P} {left right : List (P × RawValues)}
    (readable : compiler.Readable left) (same : left.Perm right) : compiler.Readable right :=
  fun entry member => readable entry (same.mem_iff.2 member)

theorem readable_append {compiler : SearchCompiler P} {left right : List (P × RawValues)} :
    compiler.Readable (left ++ right) ↔ compiler.Readable left ∧ compiler.Readable right :=
  List.forall_mem_append

theorem treesOf_perm (compiler : SearchCompiler P) {left right : List (P × RawValues)}
    (same : left.Perm right) : (compiler.treesOf left).Perm (compiler.treesOf right) :=
  (same.filterMap _).map _

theorem treesOf_append (compiler : SearchCompiler P) (left right : List (P × RawValues)) :
    compiler.treesOf (left ++ right) = compiler.treesOf left ++ compiler.treesOf right := by
  simp [treesOf]

/-- Some entries compile exactly if each of them is readable, and then to their trees. -/
theorem filtersOf_eq_ok_iff (compiler : SearchCompiler P) (entries : List (P × RawValues))
    (found : List (P × QueryNode)) :
    compiler.filtersOf entries = .ok found ↔
      compiler.Readable entries ∧ found = entries.filterMap compiler.selection? := by
  induction entries generalizing found with
  | nil => simp [filtersOf, Readable, eq_comm]
  | cons entry rest inductionHypothesis =>
      obtain ⟨parameter, values⟩ := entry
      rw [filtersOf, Readable, List.forall_mem_cons]
      cases read : compiler.parameterFilter parameter values with
      | error error => simp
      | ok tree =>
          have here : compiler.selection? (parameter, values) = tree.map (parameter, ·) := by
            rw [selection?, read]
            cases tree <;> rfl
          cases tree with
          | none =>
              simp only [inductionHypothesis, List.filterMap_cons, here, Option.map_none,
                Except.ok.injEq, exists_eq', true_and]
              rfl
          | some tree =>
              simp only [List.filterMap_cons, here, Option.map_some, Except.ok.injEq, exists_eq',
                true_and, map_eq_ok_iff, inductionHypothesis]
              constructor
              · rintro ⟨_, ⟨readable, rfl⟩, rfl⟩
                exact ⟨readable, rfl⟩
              · rintro ⟨readable, rfl⟩
                exact ⟨_, ⟨readable, rfl⟩, rfl⟩

/-! ## Filters -/

theorem filters_eq_ok {compiler : SearchCompiler P} {parameters : ParameterValues P}
    (readable : compiler.Readable parameters.entries) :
    ∃ nodes, compiler.filters parameters = .ok nodes ∧
      nodes.Perm (compiler.treesOf parameters.entries) := by
  let sorted := sortBy (fun entry => SearchParameter.name entry.1) parameters.entries
  have reordered : sorted.Perm parameters.entries := sortBy_perm _ _
  have compiled := (compiler.filtersOf_eq_ok_iff sorted _).2 ⟨readable.perm reordered.symm, rfl⟩
  refine ⟨compiler.treesOf sorted, ?_, compiler.treesOf_perm reordered⟩
  rw [filters, compiled]
  rfl

theorem readable_of_filters_eq_ok {compiler : SearchCompiler P} {parameters : ParameterValues P}
    {nodes : List QueryNode} (compiled : compiler.filters parameters = .ok nodes) :
    compiler.Readable parameters.entries := by
  rw [filters, map_eq_ok_iff] at compiled
  obtain ⟨selections, found, -⟩ := compiled
  exact ((compiler.filtersOf_eq_ok_iff _ _).1 found).1.perm (sortBy_perm _ _)

/-! ## Queries -/

/-- The filters that count beside a free text: none if the text asks for everything. -/
def counted (compiler : SearchCompiler P) (freeText : Option String)
    (parameters : ParameterValues P) : ParameterValues P :=
  if compiler.isMatchAll freeText then .empty else parameters

/-- The clauses that count of a free text: none if the text asks for everything. -/
def countedClauses (compiler : SearchCompiler P) (freeText : Option String) :
    List FullTextClause :=
  if compiler.isMatchAll freeText then [] else compiler.fullTextClauses freeText

@[simp] theorem counted_counted (compiler : SearchCompiler P) (freeText : Option String)
    (parameters : ParameterValues P) :
    compiler.counted freeText (compiler.counted freeText parameters) =
      compiler.counted freeText parameters := by
  unfold counted
  split <;> rfl

theorem counted_filterKeys (compiler : SearchCompiler P) (freeText : Option String)
    (keeps : P → Bool) (parameters : ParameterValues P) :
    compiler.counted freeText (parameters.filterKeys keeps) =
      (compiler.counted freeText parameters).filterKeys keeps := by
  unfold counted
  split <;> rfl

/-- A query compiles if the filters that count do. It has their trees and the clauses that
count. -/
theorem query_eq_ok {compiler : SearchCompiler P} {parameters : ParameterValues P}
    {freeText : Option String} {nodes : List QueryNode}
    (compiled : compiler.filters (compiler.counted freeText parameters) = .ok nodes) :
    ∃ query, compiler.query parameters freeText = .ok query ∧
      BoolQuery.clausesOf query = compiler.countedClauses freeText ∧
      BoolQuery.filtersOf query = nodes := by
  rw [counted] at compiled
  rw [query, countedClauses]
  split
  · rename_i matchAll
    rw [if_pos matchAll] at compiled
    cases compiled
    exact ⟨none, rfl, rfl, rfl⟩
  · rename_i notAll
    rw [if_neg notAll] at compiled
    rw [compiled]
    refine ⟨_, rfl, ?_⟩
    dsimp only
    split
    · rename_i isEmpty
      simp only [BoolQuery.isEmpty, Bool.and_eq_true, List.isEmpty_iff] at isEmpty
      exact ⟨isEmpty.1.symm, isEmpty.2.symm⟩
    · exact ⟨rfl, rfl⟩

theorem readable_of_query_eq_ok {compiler : SearchCompiler P} {parameters : ParameterValues P}
    {freeText : Option String} {found : Option BoolQuery}
    (compiled : compiler.query parameters freeText = .ok found) :
    compiler.Readable (compiler.counted freeText parameters).entries := by
  rw [query] at compiled
  rw [counted]
  split
  · exact fun _ member => absurd member List.not_mem_nil
  · rename_i notAll
    rw [if_neg notAll, map_eq_ok_iff] at compiled
    obtain ⟨nodes, filtersRead, -⟩ := compiled
    exact readable_of_filters_eq_ok filtersRead

theorem of_query_eq_ok {compiler : SearchCompiler P} {parameters : ParameterValues P}
    {freeText : Option String} {found : Option BoolQuery}
    (compiled : compiler.query parameters freeText = .ok found) :
    BoolQuery.clausesOf found = compiler.countedClauses freeText ∧
      (BoolQuery.filtersOf found).Perm
        (compiler.treesOf (compiler.counted freeText parameters).entries) := by
  obtain ⟨nodes, filtersRead, trees⟩ := filters_eq_ok (readable_of_query_eq_ok compiled)
  obtain ⟨other, same, clauses, filters⟩ := query_eq_ok filtersRead
  rw [compiled] at same
  cases same
  exact ⟨clauses, filters ▸ trees⟩

theorem query_eq_ok_of_readable {compiler : SearchCompiler P} {parameters : ParameterValues P}
    {freeText : Option String}
    (readable : compiler.Readable (compiler.counted freeText parameters).entries) :
    ∃ query, compiler.query parameters freeText = .ok query := by
  obtain ⟨nodes, filtersRead, -⟩ := filters_eq_ok readable
  obtain ⟨query, compiled, -⟩ := query_eq_ok filtersRead
  exact ⟨query, compiled⟩

end SearchCompiler

end FacetedSearch
