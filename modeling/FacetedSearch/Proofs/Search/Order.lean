import FacetedSearch.Proofs.Facet.Split

/-!
Contract: the order and the marked matches of compiled searches, beside their clauses for free text.

Owns:
- `countedClauses_eq_nil_iff`: a free text has no clause that counts exactly if it is blank or asks
  for everything;
- `Compiles`, the searches that a request is compiled to, plain or with facets;
- `order_follows_clauses_iff`: without sort fields in the request the order of a search is that of
  its clauses, by score or as the catalog states, exactly if the free text does not ask for
  everything; matches are marked only in searches with clauses.

The order of a search is taken from the free text alone, which counts as such even if it asks for
everything. The marking of matches is not.

Does not own: which clauses a free text has.
-/

namespace FacetedSearch

variable {P : Type} [SearchParameter P]

namespace SearchCompiler

/-! ## Free texts without clauses -/

theorem fullTextClauses_eq_nil_iff (compiler : SearchCompiler P) (request : SearchRequest P) :
    compiler.fullTextClauses request.freeText = [] ↔ request.trimmedText? = none := by
  unfold fullTextClauses SearchRequest.trimmedText?
  cases request.freeText with
  | none => simp
  | some text => by_cases isBlank : Text.trim text = "" <;> simp [isBlank]

/-- The two tests for a free text that asks for everything agree on texts that are not blank. -/
theorem isMatchAll_of_trimmedText?_eq_some (compiler : SearchCompiler P)
    {request : SearchRequest P} {text : String} (hasText : request.trimmedText? = some text) :
    compiler.isMatchAll request.freeText = request.isMatchAll compiler.settings := by
  unfold isMatchAll SearchRequest.isMatchAll
  rw [hasText]
  rw [SearchRequest.trimmedText?, Option.filter_eq_some_iff] at hasText
  rw [hasText.1]

theorem trimmedText?_isSome_of_isMatchAll {request : SearchRequest P} {settings : Settings}
    (matchAll : request.isMatchAll settings = true) : request.trimmedText?.isSome = true := by
  rw [SearchRequest.isMatchAll, beq_iff_eq] at matchAll
  rw [matchAll]
  rfl

theorem countedClauses_eq_nil_iff (compiler : SearchCompiler P) (request : SearchRequest P) :
    compiler.countedClauses request.freeText = [] ↔
      request.trimmedText? = none ∨ request.isMatchAll compiler.settings = true := by
  cases hasText : request.trimmedText? with
  | none =>
      have noClauses := (compiler.fullTextClauses_eq_nil_iff request).2 hasText
      simp [countedClauses, noClauses]
  | some text =>
      have someClauses : compiler.fullTextClauses request.freeText ≠ [] := by
        rw [ne_eq, fullTextClauses_eq_nil_iff, hasText]
        exact Option.some_ne_none text
      rw [countedClauses, compiler.isMatchAll_of_trimmedText?_eq_some hasText]
      by_cases matchAll : request.isMatchAll compiler.settings = true
      · simp [matchAll]
      · simp [matchAll, someClauses]

/-! ## Compiled searches -/

/-- A search that a request is compiled to, without or with its facets. -/
def Compiles (compiler : SearchCompiler P) (request : FacetedSearchRequest P)
    (search : CompiledSearch P) : Prop :=
  compiler.compileSearch request.request = .ok search ∨
    compiler.compileFaceted request = .ok search

/-- The order of a search with some clauses for free text: by score if there are any, and else as
the catalog states. -/
def orderOf (compiler : SearchCompiler P) (clauses : List FullTextClause) : List SortKey :=
  if clauses.isEmpty then compiler.catalog.defaultSortOrder.map .field else [.score]

variable {compiler : SearchCompiler P} {request : FacetedSearchRequest P}
  {search : CompiledSearch P}

/-- Facets change neither the order, nor the marking of matches, nor the clauses. -/
theorem Compiles.parts (compiles : compiler.Compiles request search) :
    search.sort = compiler.sortKeys request.request ∧
      search.highlight = compiler.highlightPlan request.request ∧
      search.clauses = compiler.countedClauses request.request.freeText := by
  rcases compiles with plain | faceted
  · obtain ⟨query, queried, rfl⟩ := map_eq_ok_iff.1 plain
    exact ⟨rfl, rfl, (of_query_eq_ok queried).1⟩
  · rw [compileFaceted] at faceted
    cases planned : compiler.facetPlan request with
    | error error => simp [planned] at faceted
    | ok plan =>
        rw [planned] at faceted
        obtain ⟨query, queried, rfl⟩ := map_eq_ok_iff.1 faceted
        exact ⟨rfl, rfl, (of_query_eq_ok queried).1⟩

theorem sortKeys_of_no_fields (compiler : SearchCompiler P) {request : SearchRequest P}
    (noFields : request.sort = []) :
    compiler.sortKeys request =
      if request.trimmedText?.isSome then [.score]
      else compiler.catalog.defaultSortOrder.map .field := by
  simp [sortKeys, noFields]

theorem score_ne_map_field (fields : List SortField) : [SortKey.score] ≠ fields.map .field := by
  cases fields <;> simp

/-- **Searches are ordered as their clauses say, unless the free text asks for everything.** Without
sort fields in the request, a search with clauses is ordered by score and one without as the catalog
states, exactly if the free text does not ask for everything. In any case matches are marked only in
searches with clauses. -/
theorem order_follows_clauses_iff (compiles : compiler.Compiles request search) :
    (request.request.sort = [] →
      (search.sort = compiler.orderOf search.clauses ↔
        request.request.isMatchAll compiler.settings = false)) ∧
    (search.highlight.isSome = true → search.clauses ≠ []) := by
  obtain ⟨sort, highlight, clauses⟩ := compiles.parts
  have noClauses := compiler.countedClauses_eq_nil_iff request.request
  rw [← clauses] at noClauses
  constructor
  · intro noFields
    rw [sort, compiler.sortKeys_of_no_fields noFields, orderOf]
    cases matchAll : request.request.isMatchAll compiler.settings with
    | true =>
        have isEmpty := List.isEmpty_iff.2 (noClauses.2 (.inr matchAll))
        rw [if_pos (trimmedText?_isSome_of_isMatchAll matchAll), if_pos isEmpty]
        simpa using score_ne_map_field compiler.catalog.defaultSortOrder
    | false =>
        have sameTest : search.clauses.isEmpty = !request.request.trimmedText?.isSome := by
          rw [Bool.eq_iff_iff, List.isEmpty_iff, noClauses, matchAll]
          cases request.request.trimmedText? <;> simp
        rw [sameTest]
        cases request.request.trimmedText? <;> simp
  · intro marked
    rw [highlight, highlightPlan] at marked
    split at marked
    · rename_i asked
      simp only [Bool.and_eq_true, Bool.not_eq_true'] at asked
      obtain ⟨⟨-, hasText⟩, notAll⟩ := asked
      rw [ne_eq, noClauses, notAll]
      cases text : request.request.trimmedText? <;> simp_all
    · cases marked

end SearchCompiler

/-! ## Observations of species -/

namespace Observations

/-- The observations, with the latest first if nothing else is asked for. -/
def latestFirst : SearchCompiler DeclaredParameter where
  catalog :=
    (CatalogTable.ofDeclarations
      [.field country "country", .sort ⟨"created", .descending⟩]).catalog
  settings := {}

/-- A free text that asks for everything. -/
def everything : FacetedSearchRequest DeclaredParameter where
  request := { freeText := some " * ", highlight := true }

theorem order_follows_clauses_iff_latest :
    ∃ puma all, latestFirst.Compiles { request := { freeText := some "puma" } } puma ∧
      latestFirst.Compiles everything all ∧ puma.sort = latestFirst.orderOf puma.clauses ∧
      all.sort ≠ latestFirst.orderOf all.clauses := by
  obtain ⟨puma, compiledPuma⟩ :
      ∃ puma, latestFirst.compileSearch { freeText := some "puma" } = .ok puma := ⟨_, rfl⟩
  obtain ⟨all, compiledAll⟩ :
      ∃ all, latestFirst.compileFaceted everything = .ok all := ⟨_, rfl⟩
  have pumaCompiles :
      latestFirst.Compiles { request := { freeText := some "puma" } } puma := .inl compiledPuma
  have allCompiles : latestFirst.Compiles everything all := .inr compiledAll
  have pumaOrder := (SearchCompiler.order_follows_clauses_iff pumaCompiles).1 rfl
  have allOrder := (SearchCompiler.order_follows_clauses_iff allCompiles).1 rfl
  refine ⟨puma, all, pumaCompiles, allCompiles, pumaOrder.2 (by decide +kernel), ?_⟩
  intro follows
  have notAll := allOrder.1 follows
  exact absurd notAll (by decide +kernel)

/-- A search for everything has no clauses, and is ordered by score all the same. -/
theorem everything_ordered_by_score :
    latestFirst.settings.validated = .ok latestFirst.settings ∧ everything.request.sort = [] ∧
      latestFirst.catalog.defaultSortOrder = [⟨"created", .descending⟩] ∧
      ∃ search, latestFirst.compileSearch everything.request = .ok search ∧
        latestFirst.compileFaceted everything = .ok search ∧
        search.clauses = [] ∧ search.sort = [.score] :=
  ⟨by decide +kernel, rfl, rfl, _, rfl, rfl, rfl, rfl⟩

end Observations

end FacetedSearch
