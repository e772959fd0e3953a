import FacetedSearch.Proofs.Outcome
import FacetedSearch.Proofs.Sorting
import FacetedSearch.Query.Compilation
import FacetedSearch.Response.Uniform

/-!
Contract: facets made from the aggregations of an answer.

Owns:
- `SearchCompiler.normalizer`, the reading of answers to the requests of a compiler;
- `fieldOf_eq_self` and `fieldOf_mark_append`, the fields of names without a mark and with one;
- `facet?_eq_some_iff`: which aggregations become facets, and which facets;
- `facetsOf_eq_ok`: if each aggregation has an outcome, the facets are the outcomes in order;
- `exists_mem_of_facetsOf_eq_ok`: where a facet comes from;
- `sortBy_eq_of_perm`: facets at different positions of a request have one order only;
- `pairwise_findIdx`: a request without repeated facets is ascending in its own positions.

Does not own: the aggregations that an engine answers with.
-/

namespace FacetedSearch

/-! ## Order -/

/-- A list whose keys ascend strictly is the only sorted order of its elements. -/
theorem sortBy_eq_of_perm {α : Type} (key : α → Nat) {list sorted : List α}
    (perm : list.Perm sorted)
    (strict : sorted.Pairwise fun left right => key left < key right) :
    sortBy key list = sorted := by
  have distinctKeys : (sorted.map key).Nodup :=
    List.pairwise_map.2 (strict.imp fun less => Nat.ne_of_lt less)
  refine sortBy_eq_of_ascending perm (strict.imp Nat.le_of_lt) ?_
  intro first firstMember second secondMember sameKey
  exact List.inj_on_of_nodup_map distinctKeys firstMember secondMember sameKey

/-- The first positions of different elements ascend in the order of the elements. -/
theorem pairwise_findIdx {P : Type} [DecidableEq P] {list : List P} (distinct : list.Nodup) :
    list.Pairwise fun left right =>
      list.findIdx (fun element => decide (element = left)) <
        list.findIdx (fun element => decide (element = right)) := by
  induction list with
  | nil => exact .nil
  | cons head tail inductionHypothesis =>
      obtain ⟨fresh, distinctTail⟩ := List.nodup_cons.1 distinct
      have notHead : ∀ element ∈ tail, head ≠ element := by
        intro element member same
        exact fresh (same ▸ member)
      have shifted : ∀ element ∈ tail,
          (head :: tail).findIdx (fun other => decide (other = element)) =
            tail.findIdx (fun other => decide (other = element)) + 1 := by
        intro element member
        rw [List.findIdx_cons, decide_eq_false (notHead element member)]
        rfl
      refine List.pairwise_cons.2 ⟨?_, ?_⟩
      · intro element member
        have atHead : (head :: tail).findIdx (fun other => decide (other = head)) = 0 := by
          simp [List.findIdx_cons]
        rw [shifted element member, atHead]
        exact Nat.succ_pos _
      · refine (inductionHypothesis distinctTail).imp_of_mem ?_
        intro left right leftMember rightMember before
        rw [shifted left leftMember, shifted right rightMember]
        omega

/-! ## Facets -/

variable {P : Type} [SearchParameter P]

/-- The normalizer that shares catalog and settings with a compiler. -/
def SearchCompiler.normalizer (compiler : SearchCompiler P) : ResponseNormalizer P :=
  ⟨compiler.catalog, compiler.settings⟩

namespace ResponseNormalizer

/-- A name without the mark is the name of a field. -/
theorem fieldOf_eq_self {normalizer : ResponseNormalizer P} {name : String}
    (unmarked : ¬ normalizer.settings.filteredAggregationMark.toList <+: name.toList) :
    normalizer.fieldOf name = name := by
  unfold fieldOf
  cases stripped :
      Text.stripStart? normalizer.settings.filteredAggregationMark.toList name.toList with
  | none => rfl
  | some rest =>
      have whole := Text.eq_append_of_stripStart? stripped
      exact absurd ⟨rest, whole.symm⟩ unmarked

/-- A name that begins with the mark stands for the field behind it. -/
theorem fieldOf_mark_append (normalizer : ResponseNormalizer P) (field : String) :
    normalizer.fieldOf (normalizer.settings.filteredAggregationMark ++ field) = field := by
  unfold fieldOf
  rw [String.toList_append, Text.stripStart?_append]
  exact String.ofList_toList

theorem fieldOf_eq_of_not_append {normalizer : ResponseNormalizer P} {name : String}
    (unmarked : ∀ rest, name ≠ normalizer.settings.filteredAggregationMark ++ rest) :
    normalizer.fieldOf name = name := by
  apply fieldOf_eq_self
  rintro ⟨rest, split⟩
  refine unmarked (String.ofList rest) (String.toList_inj.1 ?_)
  rw [String.toList_append, String.toList_ofList, split]

/-- The facet of a parameter with a page of buckets. -/
def facetOf (normalizer : ResponseNormalizer P) (request : FacetedSearchRequest P) (parameter : P)
    (buckets : List Bucket) : Facet P :=
  ⟨parameter, (normalizer.page request parameter buckets).map (normalizer.facetCount parameter)⟩

/-- An aggregation becomes a facet exactly if its field has a parameter and its buckets are found. -/
theorem facet?_eq_some_iff {normalizer : ResponseNormalizer P} {request : FacetedSearchRequest P}
    {aggregation : String × RawAggregation} {facet : Facet P} :
    normalizer.facet? request aggregation = .ok (some facet) ↔
      ∃ parameter buckets,
        normalizer.catalog.parameterFor (normalizer.fieldOf aggregation.1) = some parameter ∧
        normalizer.buckets (normalizer.fieldOf aggregation.1) aggregation.2 = .ok buckets ∧
        normalizer.facetOf request parameter buckets = facet := by
  unfold facet?
  dsimp only
  cases normalizer.catalog.parameterFor (normalizer.fieldOf aggregation.1) with
  | none => simp
  | some parameter =>
      rw [map_eq_ok_iff]
      simp [facetOf]

theorem facetsOf_eq_ok {normalizer : ResponseNormalizer P} {request : FacetedSearchRequest P}
    {outcome : String × RawAggregation → Option (Facet P)}
    {aggregations : List (String × RawAggregation)}
    (each : ∀ aggregation ∈ aggregations,
      normalizer.facet? request aggregation = .ok (outcome aggregation)) :
    normalizer.facetsOf request aggregations = .ok (aggregations.filterMap outcome) := by
  induction aggregations with
  | nil => rfl
  | cons first rest inductionHypothesis =>
      have here := each first List.mem_cons_self
      have others :=
        inductionHypothesis fun other inRest => each other (List.mem_cons_of_mem first inRest)
      unfold facetsOf
      rw [here, others]
      cases found : outcome first with
      | none => simp [found]
      | some facet => simp [found, Except.map]

/-- Each facet is that of an aggregation. -/
theorem exists_mem_of_facetsOf_eq_ok {normalizer : ResponseNormalizer P}
    {request : FacetedSearchRequest P} {aggregations : List (String × RawAggregation)}
    {facets : List (Facet P)} (found : normalizer.facetsOf request aggregations = .ok facets)
    {facet : Facet P} (member : facet ∈ facets) :
    ∃ aggregation ∈ aggregations, normalizer.facet? request aggregation = .ok (some facet) := by
  induction aggregations generalizing facets with
  | nil =>
      cases found
      cases member
  | cons first rest inductionHypothesis =>
      unfold facetsOf at found
      cases made : normalizer.facet? request first with
      | error error => simp [made] at found
      | ok outcome =>
          rw [made] at found
          cases outcome with
          | none =>
              obtain ⟨aggregation, inRest, same⟩ := inductionHypothesis found member
              exact ⟨aggregation, List.mem_cons_of_mem first inRest, same⟩
          | some here =>
              obtain ⟨others, foundOthers, rfl⟩ := map_eq_ok_iff.1 found
              rcases List.mem_cons.1 member with rfl | inOthers
              · exact ⟨first, List.mem_cons_self, made⟩
              · obtain ⟨aggregation, inRest, same⟩ := inductionHypothesis foundOthers inOthers
                exact ⟨aggregation, List.mem_cons_of_mem first inRest, same⟩

theorem normalizeFaceted_eq_ok {T : Type} {normalizer : ResponseNormalizer P}
    {request : FacetedSearchRequest P} {raw : RawResult} {facets : List (Facet P)}
    (found : normalizer.facets request raw.aggregations = .ok facets) (mapper : Hit → T) :
    ∃ response, normalizer.normalizeFaceted request mapper raw = .ok response ∧
      response.facets = facets := by
  unfold normalizeFaceted
  rw [found]
  exact ⟨_, rfl, rfl⟩

end ResponseNormalizer

end FacetedSearch
