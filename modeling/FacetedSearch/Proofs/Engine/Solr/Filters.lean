import FacetedSearch.Engine.Solr.Parameters
import FacetedSearch.Proofs.Query.Meaning
import FacetedSearch.Proofs.Query.Trees

/-!
Contract: the texts of filters and of counted fields in the request parameters of a search.

Owns:
- `valuesOf`, the texts of all parameters with a name;
- `valuesOf_fq_searchParameters`: under multi-select facets the filters of the main query are bare
  expressions, and those of the hits are expressions behind the tags of their fields;
- `valuesOf_facetField_searchParameters`: each counted field stands behind the tag that it leaves
  out.

The texts are stated as an engine reads them, letter by letter, and without the definitions that
write them.

Does not own: the expressions of filters.
-/

namespace FacetedSearch.Solr

variable {P : Type}

/-! ## Parameters with a name -/

/-- The texts of all parameters with a name, in order. -/
def valuesOf (name : String) (parameters : List Parameter) : List String :=
  (parameters.filter fun parameter => parameter.1 == name).map Prod.snd

theorem valuesOf_append (name : String) (left right : List Parameter) :
    valuesOf name (left ++ right) = valuesOf name left ++ valuesOf name right := by
  simp only [valuesOf, List.filter_append, List.map_append]

theorem valuesOf_flatMap {α : Type} (name : String) (items : List α)
    (parameters : α → List Parameter) :
    valuesOf name (items.flatMap parameters) =
      items.flatMap fun item => valuesOf name (parameters item) := by
  simp only [valuesOf, List.filter_flatMap, List.map_flatMap]

/-- The parameters for the page of a field have names of their own. -/
theorem pageName_ne {name : String} (other : name.toList.take 2 ≠ ['f', '.'])
    (field suffix : String) : "f." ++ field ++ suffix ≠ name := by
  rintro rfl
  exact other (by simp)

/-- Besides filters and facets, no part of a request has parameters of these names. -/
theorem valuesOf_searchParameters {name : String} (named : name = "fq" ∨ name = "facet.field")
    (settings : Settings) (search : CompiledSearch P) :
    valuesOf name (searchParameters settings search) =
      valuesOf name ((filters search).map TaggedFilter.parameter) ++
        valuesOf name (facetParameters settings search.aggregations) := by
  have ofPage : valuesOf name
      [("q", mainQuery search.query), ("q.alt", FullText.matchAllQuery),
        ("start", toString search.offset.toNat), ("rows", toString search.size.toNat)] = [] := by
    rcases named with rfl | rfl <;> rfl
  have ofHighlight : valuesOf name ((search.highlight.map highlightParameters).getD []) = [] := by
    rcases named with rfl | rfl <;> cases search.highlight <;> rfl
  have ofSort : valuesOf name (sortParameters search.sort) = [] := by
    unfold sortParameters
    rcases named with rfl | rfl <;> split <;> rfl
  unfold searchParameters
  simp only [valuesOf_append, ofPage, ofHighlight, ofSort, List.nil_append, List.append_nil]

/-! ## Filters -/

theorem localParameter_tagName {name start : String} (isStart : "\x7b!" ++ name ++ "=ffq" = start)
    (field : String) : localParameter name (tagName field) = start ++ field ++ "\x7d" := by
  subst isStart
  apply String.toList_injective
  simp [localParameter, tagName]

/-- A tree on a field is tagged with the field. -/
theorem parameter_postFilter {field : String} {node : QueryNode} (on : node.On field) :
    (postFilter true node).parameter =
      ("fq", "\x7b!tag=ffq" ++ field ++ "\x7d" ++ String.ofList (filterQuery node)) := by
  have tag : (postFilter true node).field = some field := on.head?_field
  have isStart : "\x7b!" ++ "tag" ++ "=ffq" = "\x7b!tag=ffq" := by decide
  rw [TaggedFilter.parameter, tag]
  dsimp only
  rw [localParameter_tagName isStart]
  rfl

theorem valuesOf_fq_filters (tagged : List TaggedFilter) :
    valuesOf "fq" (tagged.map TaggedFilter.parameter) =
      tagged.map fun filter => filter.parameter.2 := by
  have named : ∀ parameter ∈ tagged.map TaggedFilter.parameter, (parameter.1 == "fq") = true := by
    intro parameter member
    obtain ⟨filter, -, rfl⟩ := List.mem_map.1 member
    rfl
  rw [valuesOf, List.filter_eq_self.2 named, List.map_map]
  rfl

theorem valuesOf_fq_facetParameters (settings : Settings) (plan : AggregationPlan P) :
    valuesOf "fq" (facetParameters settings plan) = [] := by
  have ofField (facet : FacetField) : valuesOf "fq" facet.parameters = [] := by
    have pageName := pageName_ne (show "fq".toList.take 2 ≠ _ by decide) facet.field
    simp [valuesOf, FacetField.parameters, pageName]
  unfold facetParameters
  split
  · rfl
  · rw [valuesOf_append, valuesOf_flatMap, List.flatMap_eq_nil_iff.2 fun facet _ => ofField facet]
    rfl

/-- Under multi-select facets the filters of the main query have no tag, and each filter of the hits
has the tag of its field. -/
theorem valuesOf_fq_searchParameters (settings : Settings) {search : CompiledSearch P}
    (multiSelect : search.isMultiSelect = true) {tagged : List (String × QueryNode)}
    (onHits : search.postFilter = tagged.map Prod.snd)
    (on : ∀ filter ∈ tagged, filter.2.On filter.1) :
    valuesOf "fq" (searchParameters settings search) =
      search.queryFilters.map (fun node => String.ofList (filterQuery node)) ++
        tagged.map fun filter =>
          "\x7b!tag=ffq" ++ filter.1 ++ "\x7d" ++ String.ofList (filterQuery filter.2) := by
  rw [valuesOf_searchParameters (.inl rfl), valuesOf_fq_facetParameters, List.append_nil,
    valuesOf_fq_filters, filters, List.map_append, List.map_map, List.map_map, multiSelect, onHits,
    List.map_map]
  congr 1
  apply List.map_congr_left
  intro filter member
  exact congrArg Prod.snd (parameter_postFilter (on filter member))

/-! ## Counted fields -/

theorem valuesOf_facetField_field (field : String) (limit : UInt64) :
    valuesOf "facet.field" (FacetField.parameters ⟨field, true, limit⟩) =
      ["\x7b!ex=ffq" ++ field ++ "\x7d" ++ field] := by
  have pageName := pageName_ne (show "facet.field".toList.take 2 ≠ _ by decide) field
  have isStart : "\x7b!" ++ "ex" ++ "=ffq" = "\x7b!ex=ffq" := by decide
  simp [valuesOf, FacetField.parameters, pageName, localParameter_tagName isStart]

theorem valuesOf_facetField_facetParameters (settings : Settings)
    (facets : List (MultiSelectFacet P)) :
    valuesOf "facet.field" (facetParameters settings (.multiSelect facets)) =
      facets.map fun facet =>
        "\x7b!ex=ffq" ++ facet.terms.field ++ "\x7d" ++ facet.terms.field := by
  have ofFields : facetFields (AggregationPlan.multiSelect facets) =
      facets.map fun facet => ⟨facet.terms.field, true, facet.terms.size⟩ := by
    rw [facetFields, AggregationPlan.terms, List.map_map]
    rfl
  unfold facetParameters
  split
  · rename_i noTerms
    rw [AggregationPlan.terms, List.isEmpty_map, List.isEmpty_iff] at noTerms
    rw [noTerms]
    rfl
  · rw [valuesOf_append, valuesOf_flatMap, ofFields, List.flatMap_map]
    simp only [valuesOf_facetField_field, ← List.map_eq_flatMap]
    rfl

/-- The counted fields of a multi-select plan are those of its facets, and each leaves out the
filters with its tag. -/
theorem valuesOf_facetField_searchParameters (settings : Settings) {search : CompiledSearch P}
    {facets : List (MultiSelectFacet P)} (plan : search.aggregations = .multiSelect facets) :
    valuesOf "facet.field" (searchParameters settings search) =
      facets.map fun facet =>
        "\x7b!ex=ffq" ++ facet.terms.field ++ "\x7d" ++ facet.terms.field := by
  have ofFilters : valuesOf "facet.field" ((filters search).map TaggedFilter.parameter) = [] := by
    simp [valuesOf, TaggedFilter.parameter, List.filter_map, Function.comp_def]
  rw [valuesOf_searchParameters (.inr rfl), ofFilters, plan, List.nil_append,
    valuesOf_facetField_facetParameters]

end FacetedSearch.Solr
