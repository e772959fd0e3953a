import FacetedSearch.Catalog.Table
import FacetedSearch.Proofs.Facet.Plan

/-!
Contract: the split of a request's filters between its main query and its hits.

Owns:
- `readable_queryParameters_iff` and `treesOf_split_perm`: no plan drops, repeats or adds a filter;
- `compileFaceted_split`: the hits of a request are the same with and without its facets.

Does not own: which documents a facet counts.
-/

namespace FacetedSearch

open scoped List

variable {P : Type} [SearchParameter P]

namespace SearchCompiler

/-! ## The filters that count -/

theorem activeParameters_eq_counted (compiler : SearchCompiler P)
    (request : FacetedSearchRequest P) :
    compiler.activeParameters request =
      compiler.counted request.request.freeText request.request.parameters :=
  rfl

theorem facetFilters_append_otherFilters_perm (compiler : SearchCompiler P)
    (request : FacetedSearchRequest P) :
    ((compiler.facetFilters request).entries ++ (compiler.otherFilters request).entries).Perm
      (compiler.activeParameters request).entries := by
  rw [facetFilters, otherFilters, Keyed.filterKeys, Keyed.filterKeys]
  exact List.filter_append_perm _ _

theorem counted_queryParameters {compiler : SearchCompiler P} {request : FacetedSearchRequest P}
    {plan : FacetPlan P} (planned : Planned compiler request plan) :
    compiler.counted request.request.freeText plan.queryParameters = plan.queryParameters := by
  cases planned with
  | withoutFacets _ => exact compiler.counted_counted _ _
  | simple _ _ => exact compiler.counted_counted _ _
  | multiSelect _ _ =>
      show compiler.counted request.request.freeText (compiler.otherFilters request) =
        compiler.otherFilters request
      rw [otherFilters, counted_filterKeys, activeParameters_eq_counted, counted_counted]

theorem readable_queryParameters_iff {compiler : SearchCompiler P}
    {request : FacetedSearchRequest P} {plan : FacetPlan P}
    (planned : Planned compiler request plan) :
    compiler.Readable plan.queryParameters.entries ↔
      compiler.Readable (compiler.activeParameters request).entries := by
  cases planned with
  | withoutFacets _ => exact Iff.rfl
  | simple _ _ => exact Iff.rfl
  | multiSelect _ onFacets =>
      have split := compiler.facetFilters_append_otherFilters_perm request
      constructor
      · intro others
        exact (readable_append.2 ⟨onFacets, others⟩).perm split
      · intro all
        exact (readable_append.1 (all.perm split.symm)).2

theorem facetSelections_perm (compiler : SearchCompiler P) (request : FacetedSearchRequest P) :
    ((compiler.facetSelections request).map Prod.snd).Perm
      (compiler.treesOf (compiler.facetFilters request).entries) :=
  (sortBy_perm _ _).map _

/-- The trees of a plan's main query and of its hits are the trees of all filters that count. -/
theorem treesOf_split_perm {compiler : SearchCompiler P} {request : FacetedSearchRequest P}
    {plan : FacetPlan P} (planned : Planned compiler request plan) :
    (compiler.treesOf plan.queryParameters.entries ++ plan.postFilter).Perm
      (compiler.treesOf (compiler.activeParameters request).entries) := by
  cases planned with
  | withoutFacets _ => rw [List.append_nil]
  | simple _ _ => rw [List.append_nil]
  | multiSelect _ _ =>
      calc
        compiler.treesOf (compiler.otherFilters request).entries ++
            (compiler.facetSelections request).map Prod.snd
        _ ~ compiler.treesOf (compiler.otherFilters request).entries ++
            compiler.treesOf (compiler.facetFilters request).entries :=
          (compiler.facetSelections_perm request).append_left _
        _ ~ compiler.treesOf (compiler.facetFilters request).entries ++
            compiler.treesOf (compiler.otherFilters request).entries := List.perm_append_comm
        _ ~ compiler.treesOf (compiler.activeParameters request).entries := by
          rw [← treesOf_append]
          exact compiler.treesOf_perm (compiler.facetFilters_append_otherFilters_perm request)

/-! ## Hits with and without facets -/

theorem compileSearch_eq_ok {compiler : SearchCompiler P} {request : SearchRequest P}
    (readable :
      compiler.Readable (compiler.counted request.freeText request.parameters).entries) :
    ∃ search, compiler.compileSearch request = .ok search ∧
      search.clauses = compiler.countedClauses request.freeText ∧
      search.queryFilters.Perm
        (compiler.treesOf (compiler.counted request.freeText request.parameters).entries) ∧
      search.postFilter = [] := by
  obtain ⟨query, compiled⟩ := query_eq_ok_of_readable readable
  obtain ⟨clauses, trees⟩ := of_query_eq_ok compiled
  rw [compileSearch, compiled]
  exact ⟨_, rfl, clauses, trees, rfl⟩

/-- A facet of a request whose page needs more buckets than an aggregation may ask for. -/
def FacetTooLarge (compiler : SearchCompiler P) (request : FacetedSearchRequest P) (facet : P)
    (field : String) : Prop :=
  facet ∈ request.facets ∧ compiler.catalog.fieldFor facet = some field ∧
    compiler.settings.maxFacetSize.toNat <
      compiler.coveringSize field (request.facetOffsetFor facet)
        (request.facetLimitFor facet compiler.settings.defaultFacetLimit)

theorem facetTooLarge_of_termsAggregation_eq_error {compiler : SearchCompiler P}
    {request : FacetedSearchRequest P} {facet : P × String} {error : SearchError}
    (mapped : facet ∈ compiler.mappedFacets request)
    (failed : compiler.termsAggregation request facet = .error error) :
    compiler.FacetTooLarge request facet.1 facet.2 := by
  obtain ⟨requested, field⟩ := (compiler.mem_mappedFacets request facet).1 mapped
  refine ⟨requested, field, ?_⟩
  rw [termsAggregation, map_eq_error_iff] at failed
  exact ((compiler.aggregationSize_eq_error_iff _ _ _ _).1 failed).1

theorem compileFaceted_fails_only_if {compiler : SearchCompiler P}
    {request : FacetedSearchRequest P} {error : SearchError}
    (failed : compiler.compileFaceted request = .error error) :
    ¬ compiler.Readable (compiler.activeParameters request).entries ∨
      ∃ facet field, compiler.FacetTooLarge request facet field := by
  rcases compileFaceted_eq_error failed with noPlan | ⟨plan, planned, noQuery⟩
  · rcases facetPlan_eq_error noPlan with ⟨facet, mapped, tooLarge⟩ | unreadable
    · exact .inr ⟨_, _, facetTooLarge_of_termsAggregation_eq_error mapped tooLarge⟩
    · refine .inl fun readable => unreadable ?_
      have split := compiler.facetFilters_append_otherFilters_perm request
      exact (readable_append.1 (readable.perm split.symm)).1
  · refine .inl fun readable => ?_
    have remaining := (readable_queryParameters_iff planned).2 readable
    rw [← counted_queryParameters planned] at remaining
    obtain ⟨query, compiled⟩ := query_eq_ok_of_readable remaining
    rw [compiled] at noQuery
    cases noQuery

/-- **Facets do not change the hits.** A search for hits and facets has the clauses of the search
for the hits alone, and its filters, some of them on the hits only. It fails only if that search
does or a facet is too large. -/
theorem compileFaceted_split (compiler : SearchCompiler P) (request : FacetedSearchRequest P) :
    (∀ faceted, compiler.compileFaceted request = .ok faceted →
      ∃ plain, compiler.compileSearch request.request = .ok plain ∧
        faceted.clauses = plain.clauses ∧ plain.postFilter = [] ∧
        (faceted.queryFilters ++ faceted.postFilter).Perm plain.queryFilters ∧
        ∀ facts, faceted.Hits facts ↔ plain.Hits facts) ∧
    ∀ error, compiler.compileFaceted request = .error error →
      (∃ error, compiler.compileSearch request.request = .error error) ∨
        ∃ facet field, compiler.FacetTooLarge request facet field := by
  constructor
  · intro faceted compiled
    obtain ⟨plan, planned, queried, onHits, -⟩ := of_compileFaceted_eq_ok compiled
    have readable := readable_of_query_eq_ok queried
    obtain ⟨clauses, filters⟩ := of_query_eq_ok queried
    rw [counted_queryParameters planned] at readable filters
    obtain ⟨plain, plainCompiled, plainClauses, plainFilters, noneOnHits⟩ :=
      compileSearch_eq_ok ((readable_queryParameters_iff planned).1 readable)
    have sameClauses : faceted.clauses = plain.clauses := clauses.trans plainClauses.symm
    have sameFilters : (faceted.queryFilters ++ faceted.postFilter).Perm plain.queryFilters := by
      rw [onHits]
      exact ((filters.append_right _).trans (treesOf_split_perm planned)).trans plainFilters.symm
    refine ⟨plain, plainCompiled, sameClauses, noneOnHits, sameFilters, fun facts => ?_⟩
    rw [CompiledSearch.Hits, CompiledSearch.Hits, noneOnHits, List.append_nil]
    exact facts.meets_congr sameClauses sameFilters
  · intro error failed
    rcases compileFaceted_fails_only_if failed with unreadable | tooLarge
    · left
      cases plainCompiled : compiler.compileSearch request.request with
      | error plainError => exact ⟨plainError, rfl⟩
      | ok plain =>
          refine absurd ?_ unreadable
          rw [compileSearch, map_eq_ok_iff] at plainCompiled
          obtain ⟨query, queried, -⟩ := plainCompiled
          exact readable_of_query_eq_ok queried
    · exact .inr tooLarge

end SearchCompiler

/-! ## Observations of species -/

namespace Observations

def country : DeclaredParameter := ⟨"COUNTRY", .text⟩

def year : DeclaredParameter := ⟨"YEAR", .integer⟩

def kingdom : DeclaredParameter := ⟨"KINGDOM", .text⟩

/-- A parameter without a field. -/
def collector : DeclaredParameter := ⟨"COLLECTOR", .text⟩

def compiler : SearchCompiler DeclaredParameter where
  catalog :=
    (CatalogTable.ofDeclarations
      [.field country "country", .field year "year", .field kingdom "kingdom",
       .cardinality "kingdom" 8]).catalog
  settings := {}

theorem mem_of_fieldFor {parameter : DeclaredParameter} {field : String}
    (mapped : compiler.catalog.fieldFor parameter = some field) :
    (parameter, field) ∈ [(country, "country"), (year, "year"), (kingdom, "kingdom")] :=
  (Keyed.find?_eq_some_iff _ _ _).1 mapped

/-- Observations of pumas, with facets beside and below selections on them. -/
def request : FacetedSearchRequest DeclaredParameter where
  request :=
    { freeText := some " puma "
      parameters := .ofEntries
        [(year, .ofList ["2000,2010", "1990"]), (collector, .ofList ["museum"]),
         (kingdom, .ofList ["Animalia"]), (country, .ofList ["DK", "!SE", "NO"])] }
  facets := [country, collector, year]
  multiSelectFacets := true

/-- The request with pages that no aggregation covers. -/
def wideRequest : FacetedSearchRequest DeclaredParameter :=
  { request with facetOffset := some 1000000, facetLimit := some 300000 }

theorem compileFaceted_split_observations :
    (∃ faceted plain, compiler.compileFaceted request = .ok faceted ∧
      compiler.compileSearch request.request = .ok plain ∧ faceted.postFilter.length = 2 ∧
      faceted.clauses = plain.clauses ∧
      (faceted.queryFilters ++ faceted.postFilter).Perm plain.queryFilters) ∧
    ∃ error, compiler.compileFaceted wideRequest = .error error ∧
      ((∃ error, compiler.compileSearch wideRequest.request = .error error) ∨
        ∃ facet field, compiler.FacetTooLarge wideRequest facet field) := by
  constructor
  · have splits :
        (compiler.compileFaceted request).map (fun search => search.postFilter.length) = .ok 2 :=
      rfl
    obtain ⟨faceted, compiled, two⟩ := map_eq_ok_iff.1 splits
    obtain ⟨plain, plainCompiled, clauses, -, filters, -⟩ :=
      (compiler.compileFaceted_split request).1 faceted compiled
    exact ⟨faceted, plain, compiled, plainCompiled, two, clauses, filters⟩
  · have failed : compiler.compileFaceted wideRequest = .error (.facetTooLarge 1200000) := rfl
    exact ⟨_, failed, (compiler.compileFaceted_split wideRequest).2 _ failed⟩

end Observations

end FacetedSearch
