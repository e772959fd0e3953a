import FacetedSearch.Proofs.Engine.Elasticsearch.Body
import FacetedSearch.Proofs.Engine.Solr.Filters
import FacetedSearch.Proofs.Facet.Split

/-!
Contract: both engines count a facet under the same filters.

Owns:
- `SearchCompiler.FieldsDiffer`, catalogs that map different parameters to different fields;
- `exists_fields`: the tree of a selection is on the field of the selected parameter;
- `engines_agree`: the filters that a facet does not leave out in Solr are those of the main query
  and of the filter that the facet is counted inside in Elasticsearch.

Elasticsearch leaves selections out by their parameter, Solr by the field of the first statement of
their trees. The two agree since all statements of a tree are about the field of its parameter.

Does not own: what single filters mean to an engine.
-/

namespace FacetedSearch

open Elasticsearch Solr

variable {P : Type} [SearchParameter P]

namespace SearchCompiler

/-- Whether different parameters have different fields. -/
def FieldsDiffer (compiler : SearchCompiler P) : Prop :=
  ∀ first second field, compiler.catalog.fieldFor first = some field →
    compiler.catalog.fieldFor second = some field → first = second

/-! ## Tags -/

/-- The tree of a selection is on the field of its parameter. -/
theorem exists_fields (compiler : SearchCompiler P) (request : FacetedSearchRequest P) :
    ∃ fieldOf : P × QueryNode → String, ∀ selection ∈ compiler.facetSelections request,
      compiler.catalog.fieldFor selection.1 = some (fieldOf selection) ∧
        selection.2.On (fieldOf selection) := by
  have each : ∀ selection ∈ compiler.facetSelections request, ∃ field,
      compiler.catalog.fieldFor selection.1 = some field ∧ selection.2.On field := by
    intro selection member
    have selected := (mem_sortBy _ _ _).1 member
    obtain ⟨entry, -, found⟩ := List.mem_filterMap.1 selected
    obtain ⟨sameParameter, compiled⟩ := of_selection?_eq_some found
    rw [sameParameter]
    exact on_of_parameterFilter compiled
  choose! fieldOf fields using each
  exact ⟨fieldOf, fields⟩

/-- Leaving out the tag of a facet's field leaves out the selection on the facet's parameter. -/
theorem FieldsDiffer.exclusionFilter_eq {compiler : SearchCompiler P}
    (differ : compiler.FieldsDiffer) {selections : List (P × QueryNode)}
    {fieldOf : P × QueryNode → String}
    (fields : ∀ selection ∈ selections,
      compiler.catalog.fieldFor selection.1 = some (fieldOf selection))
    {terms : TermsAggregation P}
    (mapped : compiler.catalog.fieldFor terms.parameter = some terms.field) :
    ((selections.map fun selection => (fieldOf selection, selection.2)).filter fun filter =>
        decide ("ffq" ++ filter.1 ≠ "ffq" ++ terms.field)).map Prod.snd =
      (multiSelectFacet selections terms).exclusionFilter := by
  unfold multiSelectFacet
  rw [List.filter_map, List.map_map]
  refine congrArg (List.map Prod.snd) (List.filter_congr fun selection member => ?_)
  have selectionField := fields selection member
  have sameTag : "ffq" ++ fieldOf selection = "ffq" ++ terms.field ↔
      selection.1 = terms.parameter := by
    rw [String.append_right_inj]
    constructor
    · intro sameField
      exact differ _ _ _ selectionField (sameField ▸ mapped)
    · intro sameParameter
      rw [sameParameter, mapped] at selectionField
      exact (Option.some.inj selectionField).symm
  simp only [Function.comp_apply, ne_eq, sameTag]

/-! ## Engines -/

/-- The search of a multi-select plan. -/
theorem of_multiSelect {compiler : SearchCompiler P} {request : FacetedSearchRequest P}
    {search : CompiledSearch P} (compiled : compiler.compileFaceted request = .ok search)
    {facets : List (MultiSelectFacet P)} (plan : search.aggregations = .multiSelect facets) :
    search.postFilter = (compiler.facetSelections request).map Prod.snd ∧
      ∃ terms, (compiler.mappedFacets request).mapM (compiler.termsAggregation request) =
          .ok terms ∧
        facets = terms.map (multiSelectFacet (compiler.facetSelections request)) := by
  obtain ⟨facetPlan, planned, -, onHits, sameAggregations⟩ := of_compileFaceted_eq_ok compiled
  rw [plan] at sameAggregations
  cases planned with
  | withoutFacets _ => cases sameAggregations
  | simple _ _ => cases sameAggregations
  | @multiSelect terms built _ =>
      injection sameAggregations with sameFacets
      exact ⟨onHits, terms, built, sameFacets⟩

/-- **Both engines count a facet under the same filters.** Under multi-select facets the parameters
of Solr hold the filters of the main query without a tag and every filter of the hits behind the tag
of its field, and each counted field leaves out its own tag. The filters without this tag are, apart
from their order, those of the main query and those inside which Elasticsearch counts the facet. -/
theorem engines_agree {compiler : SearchCompiler P} (differ : compiler.FieldsDiffer)
    {request : FacetedSearchRequest P} {search : CompiledSearch P}
    (compiled : compiler.compileFaceted request = .ok search)
    {facets : List (MultiSelectFacet P)} (plan : search.aggregations = .multiSelect facets) :
    ∃ tagged : List (String × QueryNode),
      search.postFilter = tagged.map Prod.snd ∧
      (∀ filter ∈ tagged, filter.2.On filter.1) ∧
      valuesOf "fq" (searchParameters compiler.settings search) =
        search.queryFilters.map (fun node => String.ofList (Solr.filterQuery node)) ++
          tagged.map (fun filter =>
            "\x7b!tag=ffq" ++ filter.1 ++ "\x7d" ++ String.ofList (Solr.filterQuery filter.2)) ∧
      valuesOf "facet.field" (searchParameters compiler.settings search) =
        facets.map (fun facet =>
          "\x7b!ex=ffq" ++ facet.terms.field ++ "\x7d" ++ facet.terms.field) ∧
      ∀ facet ∈ facets,
        Nests (searchBody compiler.settings search) facet.terms.field
          (.object [("bool", .object [("filter", .array (facet.exclusionFilter.map nodeQuery))])])
          (compiler.settings.filteredAggregationMark ++ facet.terms.field)
          (.object
            [("terms", .object
              ([("field", .string facet.terms.field), ("size", .ofWord facet.terms.size)] ++
                (facet.terms.minCount.map fun count =>
                  ("min_doc_count", Json.Value.ofNat count.toNat)).toList))]) ∧
        (search.queryFilters ++ (tagged.filter fun filter =>
            decide ("ffq" ++ filter.1 ≠ "ffq" ++ facet.terms.field)).map Prod.snd).Perm
          (search.queryFilters ++ facet.exclusionFilter) := by
  obtain ⟨onHits, terms, built, rfl⟩ := of_multiSelect compiled plan
  obtain ⟨fieldOf, fields⟩ := compiler.exists_fields request
  have multiSelect : search.isMultiSelect = true := by
    unfold CompiledSearch.isMultiSelect
    rw [plan]
    rfl
  let tagged := (compiler.facetSelections request).map fun selection =>
    (fieldOf selection, selection.2)
  have nodes : search.postFilter = tagged.map Prod.snd := by
    rw [onHits, List.map_map]
    rfl
  have on : ∀ filter ∈ tagged, filter.2.On filter.1 :=
    List.forall_mem_map.2 fun selection selected => (fields selection selected).2
  refine ⟨tagged, nodes, on, valuesOf_fq_searchParameters _ multiSelect nodes on,
    valuesOf_facetField_searchParameters _ plan, ?_⟩
  intro facet member
  obtain ⟨facetTerms, inTerms, rfl⟩ := List.mem_map.1 member
  have isMapped := (of_mem_terms built inTerms).1
  have mapped := ((compiler.mem_mappedFacets request _).1 isMapped).2
  refine ⟨nests_of_mem plan member ?_, ?_⟩
  · -- A facet that is requested twice is asked for twice, with the same filter.
    intro other otherMember sameField
    obtain ⟨otherTerms, inTermsToo, rfl⟩ := List.mem_map.1 otherMember
    have otherIsMapped := (of_mem_terms built inTermsToo).1
    have otherMapped := ((compiler.mem_mappedFacets request _).1 otherIsMapped).2
    have sameParameter := differ _ _ _ otherMapped (sameField ▸ mapped)
    rw [terms_eq_of_parameter_eq built inTermsToo inTerms sameParameter]
  · have sameFilter := differ.exclusionFilter_eq (fun selection selected =>
      (fields selection selected).1) mapped
    exact .of_eq (congrArg (search.queryFilters ++ ·) sameFilter)

end SearchCompiler

/-! ## Observations of species -/

namespace Observations

theorem compiler_fieldsDiffer : compiler.FieldsDiffer := by
  intro first second field firstField secondField
  have differ : ∀ left ∈ [(country, "country"), (year, "year"), (kingdom, "kingdom")],
      ∀ right ∈ [(country, "country"), (year, "year"), (kingdom, "kingdom")],
        left.2 = right.2 → left.1 = right.1 := by
    decide +kernel
  exact differ _ (mem_of_fieldFor firstField) _ (mem_of_fieldFor secondField) rfl

/-- The filters that Solr is asked for with the request. -/
def solrFilters : List String :=
  ["kingdom:\x22Animalia\x22",
   "\x7b!tag=ffqcountry\x7d" ++
     "((country:\x22DK\x22 OR country:\x22NO\x22) AND -country:\x22SE\x22)",
   "\x7b!tag=ffqyear\x7d(year:1990 OR year:[2000 TO 2010])"]

/-- The facet of the country is counted below the selections on the kingdom and on the year. -/
theorem engines_agree_observations :
    ∃ search onCountry onYear, compiler.compileFaceted request = .ok search ∧
      search.aggregations = .multiSelect [onCountry, onYear] ∧
      valuesOf "fq" (searchParameters compiler.settings search) = solrFilters ∧
      onCountry.terms.field = "country" ∧ onCountry.exclusionFilter.length = 1 ∧
      search.queryFilters.length = 1 ∧
      ∃ tagged : List (String × QueryNode), search.postFilter = tagged.map Prod.snd ∧
        (search.queryFilters ++ (tagged.filter fun filter =>
            decide ("ffq" ++ filter.1 ≠ "ffq" ++ "country")).map Prod.snd).Perm
          (search.queryFilters ++ onCountry.exclusionFilter) := by
  have planned : ∃ search onCountry onYear, compiler.compileFaceted request = .ok search ∧
      search.aggregations = .multiSelect [onCountry, onYear] ∧
      valuesOf "fq" (searchParameters compiler.settings search) = solrFilters ∧
      onCountry.terms.field = "country" ∧ onCountry.exclusionFilter.length = 1 ∧
      search.queryFilters.length = 1 :=
    ⟨_, _, _, rfl, rfl, rfl, rfl, rfl, rfl⟩
  obtain ⟨search, onCountry, onYear, compiled, plan, texts, field, excluded, remaining⟩ := planned
  obtain ⟨tagged, onHits, -, -, -, agree⟩ :=
    SearchCompiler.engines_agree compiler_fieldsDiffer compiled plan
  have sameFilters := (agree onCountry List.mem_cons_self).2
  rw [field] at sameFilters
  exact ⟨search, onCountry, onYear, compiled, plan, texts, field, excluded, remaining, tagged,
    onHits, sameFilters⟩

end Observations

end FacetedSearch
