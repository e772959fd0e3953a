import FacetedSearch.Proofs.Facet.Split
import Mathlib.Data.List.Nodup

/-!
Contract: which documents a request counts for a facet.

Owns:
- `AggregationPlan.scoped`, the facets of any plan with the filters that they count under;
- `filtersExcept`, the filters that count without those on one parameter, and `scoped_trees_perm`:
  under each plan a facet counts under their trees;
- `scoped_facets_count`: what is selected on a facet does not change what the facet counts.

A simple plan leaves all filters in the main query. It counts under the same trees since it is
chosen only if no filter is on a requested facet.

Does not own: pages of buckets.
-/

namespace FacetedSearch

variable {P : Type}

/-- The facets of a plan, each with the filters that it counts under besides the main query. -/
def AggregationPlan.scoped : AggregationPlan P → List (MultiSelectFacet P)
  | .none => []
  | .simple terms => terms.map fun terms => ⟨terms, []⟩
  | .multiSelect facets => facets

theorem AggregationPlan.map_terms_scoped (plan : AggregationPlan P) :
    plan.scoped.map MultiSelectFacet.terms = plan.terms := by
  cases plan with
  | none => rfl
  | simple terms => exact (List.map_map ..).trans (List.map_id terms)
  | multiSelect facets => rfl

theorem mem_terms_of_mem_scoped {plan : AggregationPlan P} {facet : MultiSelectFacet P}
    (member : facet ∈ plan.scoped) : facet.terms ∈ plan.terms := by
  rw [← plan.map_terms_scoped]
  exact List.mem_map_of_mem member

/-! ## Filters of other parameters -/

theorem Keyed.mem_filterKeys {κ α : Type} (keeps : κ → Bool) (map : Keyed κ α)
    (entry : κ × α) :
    entry ∈ (map.filterKeys keeps).entries ↔ entry ∈ map.entries ∧ keeps entry.1 = true :=
  List.mem_filter

theorem Keyed.nodup_entries {κ α : Type} (map : Keyed κ α) : map.entries.Nodup :=
  List.Nodup.of_map Prod.fst map.distinctKeys

/-- Maps that agree on the keys that pass a test have the same entries there. -/
theorem Keyed.filterKeys_perm_of_find?_eq {κ α : Type} [DecidableEq κ] {keeps : κ → Bool}
    {left right : Keyed κ α} (agree : ∀ key, keeps key = true → left.find? key = right.find? key) :
    (left.filterKeys keeps).entries.Perm (right.filterKeys keeps).entries := by
  refine (List.perm_ext_iff_of_nodup (left.filterKeys keeps).nodup_entries
    (right.filterKeys keeps).nodup_entries).2 fun entry => ?_
  obtain ⟨key, value⟩ := entry
  rw [mem_filterKeys, mem_filterKeys, ← find?_eq_some_iff, ← find?_eq_some_iff]
  exact and_congr_left fun kept => by rw [agree key kept]

variable [SearchParameter P]

namespace SearchCompiler

/-- The filters that count, without those on a parameter. -/
def filtersExcept (compiler : SearchCompiler P) (request : FacetedSearchRequest P)
    (parameter : P) : ParameterValues P :=
  (compiler.activeParameters request).filterKeys fun other => decide (other ≠ parameter)

theorem entries_filtersExcept (compiler : SearchCompiler P) (request : FacetedSearchRequest P)
    (parameter : P) :
    (compiler.filtersExcept request parameter).entries =
      (compiler.activeParameters request).entries.filter fun entry =>
        decide (entry.1 ≠ parameter) :=
  rfl

/-- Leaving a parameter out of the selections leaves it out of their trees. -/
theorem filterMap_selection?_except (compiler : SearchCompiler P) (parameter : P)
    (entries : List (P × RawValues)) :
    (entries.filterMap compiler.selection?).filter
        (fun selection => decide (selection.1 ≠ parameter)) =
      (entries.filter fun entry => decide (entry.1 ≠ parameter)).filterMap
        compiler.selection? := by
  induction entries with
  | nil => rfl
  | cons entry rest inductionHypothesis =>
      cases found : compiler.selection? entry with
      | none =>
          rw [List.filterMap_cons_none found, inductionHypothesis]
          by_cases kept : entry.1 ≠ parameter
          · rw [List.filter_cons_of_pos (by simpa using kept), List.filterMap_cons_none found]
          · rw [List.filter_cons_of_neg (by simpa using kept)]
      | some selection =>
          have sameKey := (of_selection?_eq_some found).1
          rw [List.filterMap_cons_some found]
          by_cases kept : entry.1 ≠ parameter
          · rw [List.filter_cons_of_pos (by simpa [sameKey] using kept),
              List.filter_cons_of_pos (by simpa using kept), List.filterMap_cons_some found,
              inductionHypothesis]
          · rw [List.filter_cons_of_neg (by simpa [sameKey] using kept),
              List.filter_cons_of_neg (by simpa using kept), inductionHypothesis]

/-! ## Facets of multi-select plans -/

theorem exclusionFilter_perm (compiler : SearchCompiler P) (request : FacetedSearchRequest P)
    (terms : TermsAggregation P) :
    (multiSelectFacet (compiler.facetSelections request) terms).exclusionFilter.Perm
      (compiler.treesOf ((compiler.facetFilters request).entries.filter fun entry =>
        decide (entry.1 ≠ terms.parameter))) := by
  rw [treesOf, ← filterMap_selection?_except]
  exact ((sortBy_perm _ _).filter _).map _

/-- A filter on no requested facet is on no facet of the plan. -/
theorem otherFilters_except (compiler : SearchCompiler P) {request : FacetedSearchRequest P}
    {parameter : P} (requested : parameter ∈ request.facets) :
    ((compiler.otherFilters request).entries.filter fun entry =>
      decide (entry.1 ≠ parameter)) = (compiler.otherFilters request).entries := by
  rw [List.filter_eq_self]
  intro entry member
  have notRequested := ((Keyed.mem_filterKeys _ _ _).1 member).2
  rw [Bool.not_eq_true', List.contains_eq_mem, decide_eq_false_iff_not] at notRequested
  rw [decide_eq_true_eq]
  exact fun same => notRequested (same ▸ requested)

theorem multiSelect_trees_perm (compiler : SearchCompiler P) {request : FacetedSearchRequest P}
    {terms : TermsAggregation P} (requested : terms.parameter ∈ request.facets) :
    (compiler.treesOf (compiler.otherFilters request).entries ++
      (multiSelectFacet (compiler.facetSelections request) terms).exclusionFilter).Perm
        (compiler.treesOf (compiler.filtersExcept request terms.parameter).entries) := by
  refine ((compiler.exclusionFilter_perm request terms).append_left _).trans ?_
  refine List.perm_append_comm.trans ?_
  rw [← treesOf_append, entries_filtersExcept]
  apply compiler.treesOf_perm
  have split := (compiler.facetFilters_append_otherFilters_perm request).filter fun entry =>
    decide (entry.1 ≠ terms.parameter)
  rwa [List.filter_append, compiler.otherFilters_except requested] at split

/-! ## Facets of all plans -/

theorem requested_of_mem_terms {compiler : SearchCompiler P} {request : FacetedSearchRequest P}
    {plan : FacetPlan P} (planned : Planned compiler request plan) {terms : TermsAggregation P}
    (member : terms ∈ plan.aggregations.terms) : terms.parameter ∈ request.facets := by
  have mapped := (of_mem_terms (terms_of_planned planned) member).1
  exact ((compiler.mem_mappedFacets request _).1 mapped).1

/-- A facet's filters besides the main query, whichever plan is chosen, complete those of the main
query to the filters on all other parameters. -/
theorem scoped_trees_perm {compiler : SearchCompiler P} {request : FacetedSearchRequest P}
    (multiSelect : request.multiSelectFacets = true)
    (several : 2 ≤ (compiler.mappedFacets request).length) {plan : FacetPlan P}
    (planned : Planned compiler request plan) {facet : MultiSelectFacet P}
    (member : facet ∈ plan.aggregations.scoped) :
    (compiler.treesOf plan.queryParameters.entries ++ facet.exclusionFilter).Perm
      (compiler.treesOf (compiler.filtersExcept request facet.terms.parameter).entries) := by
  have requested := requested_of_mem_terms planned (mem_terms_of_mem_scoped member)
  cases planned with
  | withoutFacets _ => cases member
  | simple _ reason =>
      -- Two facets are mapped and selections count, so the plan is simple for want of a selection.
      have noneOnFacets : (compiler.facetFilters request).entries = [] := by
        rcases reason with single | few | noneOnFacets
        · rw [multiSelect] at single
          cases single
        · omega
        · exact noneOnFacets
      obtain ⟨terms, -, rfl⟩ := List.mem_map.1 member
      have split := (compiler.facetFilters_append_otherFilters_perm request).filter fun entry =>
        decide (entry.1 ≠ terms.parameter)
      rw [noneOnFacets, List.nil_append, compiler.otherFilters_except requested] at split
      have whole := compiler.facetFilters_append_otherFilters_perm request
      rw [noneOnFacets, List.nil_append] at whole
      rw [List.append_nil]
      exact compiler.treesOf_perm (whole.symm.trans split)
  | multiSelect _ _ =>
      obtain ⟨terms, -, rfl⟩ := List.mem_map.1 member
      exact compiler.multiSelect_trees_perm requested

/-! ## Counts -/

/-- Whether two requests are the same but for what they select on a parameter. -/
def DifferOnlyOn (parameter : P) (left right : FacetedSearchRequest P) : Prop :=
  right =
      { left with request := { left.request with parameters := right.request.parameters } } ∧
    ∀ other, other ≠ parameter →
      left.request.parameters.find? other = right.request.parameters.find? other

theorem filtersExcept_perm (compiler : SearchCompiler P) {parameter : P}
    {left right : FacetedSearchRequest P} (differ : DifferOnlyOn parameter left right) :
    (compiler.filtersExcept left parameter).entries.Perm
      (compiler.filtersExcept right parameter).entries := by
  obtain ⟨same, agree⟩ := differ
  have sameText : right.request.freeText = left.request.freeText := by rw [same]
  rw [filtersExcept, filtersExcept, activeParameters, activeParameters, sameText]
  split
  · exact .refl _
  · exact Keyed.filterKeys_perm_of_find?_eq fun other kept => agree other (by simpa using kept)

theorem terms_eq_of_differOnlyOn {compiler : SearchCompiler P} {parameter : P}
    {left right : FacetedSearchRequest P} (differ : DifferOnlyOn parameter left right)
    {leftPlan rightPlan : FacetPlan P} (leftPlanned : Planned compiler left leftPlan)
    (rightPlanned : Planned compiler right rightPlan) :
    rightPlan.aggregations.terms = leftPlan.aggregations.terms := by
  have leftTerms := terms_of_planned leftPlanned
  have rightTerms := terms_of_planned rightPlanned
  rw [differ.1] at rightTerms
  exact Except.ok.inj (rightTerms.symm.trans leftTerms)

theorem counts_perm {compiler : SearchCompiler P} {request : FacetedSearchRequest P}
    (multiSelect : request.multiSelectFacets = true)
    (several : 2 ≤ (compiler.mappedFacets request).length) {search : CompiledSearch P}
    (compiled : compiler.compileFaceted request = .ok search) {facet : MultiSelectFacet P}
    (member : facet ∈ search.aggregations.scoped) :
    search.clauses = compiler.countedClauses request.request.freeText ∧
      (search.queryFilters ++ facet.exclusionFilter).Perm
        (compiler.treesOf (compiler.filtersExcept request facet.terms.parameter).entries) := by
  obtain ⟨plan, planned, queried, -, aggregations⟩ := of_compileFaceted_eq_ok compiled
  obtain ⟨clauses, filters⟩ := of_query_eq_ok queried
  rw [counted_queryParameters planned] at filters
  rw [aggregations] at member
  exact ⟨clauses, (filters.append_right _).trans
    (scoped_trees_perm multiSelect several planned member)⟩

/-- **A facet counts without regard to its own selection.** If selections on several facets count,
each facet of the plan, whatever its form, counts under the filters on all other parameters. So a
request that differs only in the selection on the facet counts the same documents for it. -/
theorem scoped_facets_count (compiler : SearchCompiler P) (request : FacetedSearchRequest P)
    (multiSelect : request.multiSelectFacets = true)
    (several : 2 ≤ (compiler.mappedFacets request).length) (search : CompiledSearch P)
    (compiled : compiler.compileFaceted request = .ok search) (facet : MultiSelectFacet P)
    (member : facet ∈ search.aggregations.scoped) :
    (∃ nodes, compiler.filters (compiler.filtersExcept request facet.terms.parameter) =
        .ok nodes ∧ (search.queryFilters ++ facet.exclusionFilter).Perm nodes) ∧
    ∀ other otherSearch, DifferOnlyOn facet.terms.parameter request other →
      compiler.compileFaceted other = .ok otherSearch →
      (∃ otherFacet ∈ otherSearch.aggregations.scoped, otherFacet.terms = facet.terms) ∧
      ∀ otherFacet ∈ otherSearch.aggregations.scoped,
        otherFacet.terms.parameter = facet.terms.parameter →
          ∀ facts, otherSearch.Counts otherFacet facts ↔ search.Counts facet facts := by
  obtain ⟨clauses, trees⟩ := counts_perm multiSelect several compiled member
  obtain ⟨plan, planned, queried, -, aggregations⟩ := of_compileFaceted_eq_ok compiled
  constructor
  · have readable := readable_of_query_eq_ok queried
    rw [counted_queryParameters planned, readable_queryParameters_iff planned] at readable
    have readableExcept :
        compiler.Readable (compiler.filtersExcept request facet.terms.parameter).entries :=
      fun entry kept => readable entry ((Keyed.mem_filterKeys _ _ _).1 kept).1
    obtain ⟨nodes, read, sameTrees⟩ := filters_eq_ok readableExcept
    exact ⟨nodes, read, trees.trans sameTrees.symm⟩
  · intro other otherSearch differ otherCompiled
    obtain ⟨otherPlan, otherPlanned, -, -, otherAggregations⟩ :=
      of_compileFaceted_eq_ok otherCompiled
    constructor
    · have inTerms := mem_terms_of_mem_scoped (aggregations ▸ member)
      rw [← terms_eq_of_differOnlyOn differ planned otherPlanned,
        ← AggregationPlan.map_terms_scoped] at inTerms
      rw [otherAggregations]
      exact List.mem_map.1 inTerms
    · intro otherFacet otherMember sameParameter facts
      have same := differ.1
      have otherMultiSelect : other.multiSelectFacets = true := by rw [same]; exact multiSelect
      have otherSeveral : 2 ≤ (compiler.mappedFacets other).length := by rw [same]; exact several
      obtain ⟨otherClauses, otherTrees⟩ :=
        counts_perm otherMultiSelect otherSeveral otherCompiled otherMember
      have sameText : other.request.freeText = request.request.freeText := by rw [same]
      refine facts.meets_congr ?_ ?_
      · rw [otherClauses, clauses, sameText]
      · rw [sameParameter] at otherTrees
        exact otherTrees.trans
          ((compiler.treesOf_perm (compiler.filtersExcept_perm differ)).symm.trans trees.symm)

end SearchCompiler

namespace Observations

/-- Facets on two parameters without a selection on them; the plan is simple. -/
def unselected : FacetedSearchRequest DeclaredParameter where
  request := { parameters := .ofEntries [(kingdom, .ofList ["Animalia"])] }
  facets := [country, year]
  multiSelectFacets := true

/-- The same with a selection on a facet; the plan is a multi-select one. -/
def selected : FacetedSearchRequest DeclaredParameter :=
  { unselected with
    request :=
      { unselected.request with
        parameters := unselected.request.parameters.insert country (.ofList ["DK", "!SE"]) } }

theorem scoped_facets_count_selected :
    ∃ search other, compiler.compileFaceted selected = .ok search ∧
      compiler.compileFaceted unselected = .ok other ∧
      search.isMultiSelect = true ∧ other.isMultiSelect = false ∧
      ∃ facet ∈ search.aggregations.scoped, ∃ otherFacet ∈ other.aggregations.scoped,
        facet.terms.parameter = country ∧ otherFacet.terms = facet.terms ∧
        ∀ facts, other.Counts otherFacet facts ↔ search.Counts facet facts := by
  have compiled : (compiler.compileFaceted selected).map (fun search =>
      (search.isMultiSelect, search.aggregations.terms.map TermsAggregation.parameter)) =
        .ok (true, [country, year]) := rfl
  have otherCompiled : (compiler.compileFaceted unselected).map CompiledSearch.isMultiSelect =
      .ok false := rfl
  obtain ⟨search, compiled, shape⟩ := map_eq_ok_iff.1 compiled
  obtain ⟨other, otherCompiled, otherShape⟩ := map_eq_ok_iff.1 otherCompiled
  obtain ⟨multiSelect, parameters⟩ := Prod.mk.inj shape
  have onCountry : country ∈ search.aggregations.terms.map TermsAggregation.parameter := by
    rw [parameters]
    exact List.mem_cons_self
  rw [← AggregationPlan.map_terms_scoped, List.map_map, List.mem_map] at onCountry
  obtain ⟨facet, member, isCountry⟩ := onCountry
  have differ : SearchCompiler.DifferOnlyOn facet.terms.parameter selected unselected := by
    refine ⟨rfl, fun parameter different => Keyed.find?_insert_of_ne _ ?_ _⟩
    exact fun same => different (same.trans isCountry.symm)
  obtain ⟨-, counted⟩ :=
    compiler.scoped_facets_count selected rfl (by decide) search compiled facet member
  obtain ⟨⟨otherFacet, otherMember, sameTerms⟩, same⟩ := counted _ other differ otherCompiled
  exact ⟨search, other, compiled, otherCompiled, multiSelect, otherShape, facet, member,
    otherFacet, otherMember, isCountry, sameTerms, same otherFacet otherMember (by rw [sameTerms])⟩

end Observations

end FacetedSearch
