import FacetedSearch.Proofs.Search.Order
import FacetedSearch.Search.Completion

/-!
Contract: the most hits, buckets and completions that compiled requests ask an engine for.

Owns:
- `toNat_pageSize` and `pageSize_le`: a page has at most as many hits as the settings allow,
  whatever is requested;
- `size_le_of_mem_terms`: no aggregation asks for more buckets than the settings allow;
- `compileSuggest_size`: completions are asked for as they are requested;
- `sizes_within_ceilings_iff`: every compiled request keeps to the ceilings, except that requests
  for completions do so exactly if the requested number does.

Does not own: what an engine makes of a size.
-/

namespace FacetedSearch

variable {P : Type} [SearchParameter P]

/-! ## Pages -/

theorem Settings.toNat_pageSize (settings : Settings) (requested : Option UInt64) :
    (settings.pageSize requested).toNat =
      min (requested.getD settings.defaultPageSize).toNat settings.maxPageSize.toNat :=
  toNat_min_word _ _

theorem Settings.pageSize_le (settings : Settings) (requested : Option UInt64) :
    settings.pageSize requested ≤ settings.maxPageSize := by
  rw [UInt64.le_iff_toNat_le, toNat_pageSize]
  exact Nat.min_le_right _ _

namespace SearchCompiler

variable {compiler : SearchCompiler P}

/-- The page of a search for hits and facets. -/
theorem page_of_compileFaceted {request : FacetedSearchRequest P} {compiled : CompiledSearch P}
    (compiles : compiler.compileFaceted request = .ok compiled) :
    compiled.offset = request.request.offset ∧
      compiled.size =
        if request.facetsOnly then 0 else compiler.settings.pageSize request.request.limit := by
  rw [compileFaceted] at compiles
  cases planned : compiler.facetPlan request with
  | error error => simp [planned] at compiles
  | ok plan =>
      rw [planned] at compiles
      obtain ⟨query, -, rfl⟩ := map_eq_ok_iff.1 compiles
      exact ⟨rfl, rfl⟩

theorem Compiles.size_le {request : FacetedSearchRequest P} {search : CompiledSearch P}
    (compiles : compiler.Compiles request search) :
    search.size ≤ compiler.settings.maxPageSize := by
  rcases compiles with plain | faceted
  · obtain ⟨query, -, rfl⟩ := map_eq_ok_iff.1 plain
    exact compiler.settings.pageSize_le request.request.limit
  · rw [(page_of_compileFaceted faceted).2]
    split
    · exact UInt64.zero_le
    · exact compiler.settings.pageSize_le request.request.limit

/-! ## Buckets -/

theorem size_le_of_mem_terms {request : FacetedSearchRequest P} {plan : FacetPlan P}
    (planned : Planned compiler request plan) {terms : TermsAggregation P}
    (member : terms ∈ plan.aggregations.terms) :
    terms.size ≤ compiler.settings.maxFacetSize := by
  obtain ⟨-, built⟩ := of_mem_terms (terms_of_planned planned) member
  obtain ⟨size, granted, same⟩ := (compiler.termsAggregation_eq_ok_iff request _ terms).1 built
  obtain ⟨fits, covers⟩ := (compiler.aggregationSize_eq_ok_iff _ _ _ size).1 granted
  have isSize : terms.size = size := by rw [same]
  rw [isSize, UInt64.le_iff_toNat_le, covers]
  exact fits

theorem Compiles.terms_size_le {request : FacetedSearchRequest P} {search : CompiledSearch P}
    (compiles : compiler.Compiles request search) {terms : TermsAggregation P}
    (member : terms ∈ search.aggregations.terms) :
    terms.size ≤ compiler.settings.maxFacetSize := by
  rcases compiles with plain | faceted
  · obtain ⟨query, -, rfl⟩ := map_eq_ok_iff.1 plain
    cases member
  · obtain ⟨plan, planned, -, -, sameAggregations⟩ := of_compileFaceted_eq_ok faceted
    rw [sameAggregations] at member
    exact size_le_of_mem_terms planned member

/-! ## Unfinished words -/

theorem compileAutocomplete_size_le {request : SearchRequest P} {parameter : P}
    {compiled : CompiledAutocomplete}
    (compiles : compiler.compileAutocomplete request parameter = .ok (some compiled)) :
    compiled.size ≤ compiler.settings.maxPageSize := by
  unfold compileAutocomplete at compiles
  split at compiles
  · obtain ⟨filter, -, same⟩ := map_eq_ok_iff.1 compiles
    cases same
    exact compiler.settings.pageSize_le request.limit
  · cases compiles

/-- Completions are asked for as they are requested. -/
theorem compileSuggest_size {beginning : String} {parameter : P} {limit : Option UInt64}
    {compiled : CompiledSuggest}
    (compiles : compiler.compileSuggest beginning parameter limit = some compiled) :
    compiled.size = limit.getD compiler.settings.defaultSuggestLimit := by
  obtain ⟨field, -, rfl⟩ := Option.map_eq_some_iff.1 compiles
  rfl

/-! ## Ceilings -/

/-- **Compiled requests keep to the ceilings, except for completions.** No search asks for more hits
than a page may have, no aggregation of a plan or a search for more buckets than a facet may have,
and no request for documents by the beginning of a text for more than a page may have, whatever
limits and offsets are requested. A request for completions asks for the requested number of them,
and so keeps to the size of a page exactly if the requested number does. -/
theorem sizes_within_ceilings_iff (compiler : SearchCompiler P) :
    (∀ request search, compiler.Compiles request search →
      search.size ≤ compiler.settings.maxPageSize ∧
        ∀ terms ∈ search.aggregations.terms, terms.size ≤ compiler.settings.maxFacetSize) ∧
    (∀ request plan, compiler.facetPlan request = .ok plan →
      ∀ terms ∈ plan.aggregations.terms, terms.size ≤ compiler.settings.maxFacetSize) ∧
    (∀ request parameter compiled,
      compiler.compileAutocomplete request parameter = .ok (some compiled) →
        compiled.size ≤ compiler.settings.maxPageSize) ∧
    (∀ beginning parameter limit compiled,
      compiler.compileSuggest beginning parameter (some limit) = some compiled →
        (compiled.size ≤ compiler.settings.maxPageSize ↔
          limit ≤ compiler.settings.maxPageSize)) := by
  refine ⟨?_, ?_, ?_, ?_⟩
  · intro request search compiles
    exact ⟨compiles.size_le, fun terms member => compiles.terms_size_le member⟩
  · intro request plan planned terms member
    exact size_le_of_mem_terms (planned_of_facetPlan_eq_ok planned) member
  · intro request parameter compiled compiles
    exact compileAutocomplete_size_le compiles
  · intro beginning parameter limit compiled compiles
    have size := compileSuggest_size compiles
    rw [Option.getD_some] at size
    rw [size]

end SearchCompiler

/-! ## Observations of species -/

namespace Observations

/-- A request for more hits than a page may have, and for all values of a facet. -/
def greedyRequest : FacetedSearchRequest DeclaredParameter where
  request := { limit := some 18446744073709551615, offset := 18446744073709551615 }
  facets := [kingdom]
  facetOffset := some 18446744073709551615
  facetLimit := some 18446744073709551615

theorem sizes_within_ceilings_iff_greedy :
    (∃ search, compiler.compileFaceted greedyRequest = .ok search ∧ search.size ≤ 1000 ∧
      search.aggregations.terms.map TermsAggregation.size = [8] ∧
      ∀ terms ∈ search.aggregations.terms, terms.size ≤ 1200000) ∧
    (∃ plan, compiler.facetPlan greedyRequest = .ok plan ∧
      ∀ terms ∈ plan.aggregations.terms, terms.size ≤ 1200000) ∧
    (∃ compiled, compiler.compileAutocomplete greedyRequest.request country =
      .ok (some compiled) ∧ compiled.size ≤ 1000) ∧
    ∃ compiled, compiler.compileSuggest "pu" country (some 1000) = some compiled ∧
      compiled.size ≤ compiler.settings.maxPageSize := by
  obtain ⟨ofSearch, ofPlan, ofAutocomplete, ofSuggest⟩ :=
    SearchCompiler.sizes_within_ceilings_iff compiler
  have sizes : (compiler.compileFaceted greedyRequest).map (fun search =>
      search.aggregations.terms.map TermsAggregation.size) = .ok [8] := rfl
  obtain ⟨search, searched, isEight⟩ := map_eq_ok_iff.1 sizes
  obtain ⟨plan, planned⟩ : ∃ plan, compiler.facetPlan greedyRequest = .ok plan := ⟨_, rfl⟩
  obtain ⟨completed, completes⟩ : ∃ compiled,
      compiler.compileAutocomplete greedyRequest.request country = .ok (some compiled) := ⟨_, rfl⟩
  obtain ⟨suggested, suggests⟩ :
      ∃ compiled, compiler.compileSuggest "pu" country (some 1000) = some compiled := ⟨_, rfl⟩
  obtain ⟨pageFits, facetsFit⟩ := ofSearch greedyRequest search (.inr searched)
  refine ⟨⟨search, searched, pageFits, isEight, facetsFit⟩,
    ⟨plan, planned, ofPlan greedyRequest plan planned⟩,
    ⟨completed, completes, ofAutocomplete _ country completed completes⟩, suggested, suggests, ?_⟩
  exact (ofSuggest "pu" country 1000 suggested suggests).2 (by decide)

/-- A request for completions beyond the size of a page is passed on as it is. -/
theorem completions_beyond_ceiling :
    compiler.settings.validated = .ok compiler.settings ∧
      compiler.settings.maxPageSize = 1000 ∧
      ∃ compiled, compiler.compileSuggest "pu" country (some 5000) = some compiled ∧
        compiled.size = 5000 ∧ ¬ compiled.size ≤ compiler.settings.maxPageSize :=
  ⟨by decide +kernel, rfl, _, rfl, rfl, by decide +kernel⟩

end Observations

end FacetedSearch
