import FacetedSearch.Proofs.Facet.Split
import FacetedSearch.Proofs.Response.Facets
import Mathlib.Data.List.ReduceOption

/-!
Contract: which facets an answer has, and which answers have none.

Owns:
- `Resolves`, the field and the parameter that an aggregation's name stands for;
- `OwnBuckets` and `LacksBuckets`, the buckets of an aggregation, and the faults of one that does
  not hold them; `buckets_eq_ok_iff` and `buckets_eq_error_iff`, which find them;
- `IsFacetOf`, `Broken` and `IsKnown`, the three outcomes of a single aggregation;
- `facetsOf_eq_mapM`: the facets of an answer are the outcomes of its aggregations in order;
- `facets_faithful`, which says when an answer has facets, which ones, and in which order.

Aggregations that resolve to nothing are looked at by their names only.

Does not own: how the aggregations of an answer are read.
-/

namespace FacetedSearch

variable {P : Type} [SearchParameter P]

/-- The position of a facet among the requested ones, behind all of them if it is none. -/
def FacetedSearchRequest.position (request : FacetedSearchRequest P) (facet : Facet P) : Nat :=
  request.facets.idxOf facet.parameter

/-! ## Buckets -/

/-- The buckets of an aggregation: its own, or those of the first aggregation inside it that has the
inner name. -/
inductive OwnBuckets (inner : String) : RawAggregation → List Bucket → Prop
  | terms (buckets : List Bucket) : OwnBuckets inner (.terms buckets) buckets
  | inside {count : UInt64} {before after : List (String × RawAggregation)}
      {buckets : List Bucket} (first : ∀ other ∈ before, other.1 ≠ inner) :
      OwnBuckets inner (.filter count (before ++ (inner, .terms buckets) :: after)) buckets

/-- A filter aggregation of a field whose first aggregation with the inner name is missing or is a
filter again, with the fault that this is. -/
inductive LacksBuckets (field inner : String) : RawAggregation → ResponseFault → Prop
  | missing {count : UInt64} {others : List (String × RawAggregation)}
      (absent : ∀ other ∈ others, other.1 ≠ inner) :
      LacksBuckets field inner (.filter count others) (.missingInner field inner)
  | notTerms {count innerCount : UInt64} {before after nested : List (String × RawAggregation)}
      (first : ∀ other ∈ before, other.1 ≠ inner) :
      LacksBuckets field inner
        (.filter count (before ++ (inner, .filter innerCount nested) :: after))
        (.innerNotTerms inner)

/-- The first of some aggregations with a name. -/
theorem find?_name_eq_some_iff {name : String} {aggregations : List (String × RawAggregation)}
    {found : RawAggregation} {other : String} :
    aggregations.find? (fun aggregation => aggregation.1 == name) = some (other, found) ↔
      other = name ∧ ∃ before after, aggregations = before ++ (name, found) :: after ∧
        ∀ earlier ∈ before, earlier.1 ≠ name := by
  rw [List.find?_eq_some_iff_append, beq_iff_eq]
  refine and_congr_right fun sameName => ?_
  obtain rfl : other = name := sameName
  simp only [Bool.not_eq_true', beq_eq_false_iff_ne]

theorem find?_name_append {name : String} {before after : List (String × RawAggregation)}
    (first : ∀ other ∈ before, other.1 ≠ name) (found : RawAggregation) :
    (before ++ (name, found) :: after).find? (fun aggregation => aggregation.1 == name) =
      some (name, found) :=
  find?_name_eq_some_iff.2 ⟨rfl, before, after, rfl, first⟩

namespace ResponseNormalizer

variable {normalizer : ResponseNormalizer P} {request : FacetedSearchRequest P}

theorem buckets_eq_ok_iff {field : String} {raw : RawAggregation} {buckets : List Bucket} :
    normalizer.buckets field raw = .ok buckets ↔
      OwnBuckets (normalizer.settings.filteredAggregationMark ++ field) raw buckets := by
  cases raw with
  | terms own =>
      constructor
      · intro isOk
        cases isOk
        exact .terms buckets
      · intro isOwn
        cases isOwn
        rfl
  | filter count inner =>
      unfold ResponseNormalizer.buckets
      dsimp only
      constructor
      · intro isOk
        split at isOk
        · cases isOk
        · rename_i found
          obtain ⟨-, before, after, rfl, first⟩ := find?_name_eq_some_iff.1 found
          cases isOk
          exact .inside first
        · cases isOk
      · intro isOwn
        cases isOwn with
        | inside first => rw [innerName, find?_name_append first]

theorem buckets_eq_error_iff {field : String} {raw : RawAggregation} {error : SearchError} :
    normalizer.buckets field raw = .error error ↔
      ∃ fault, LacksBuckets field (normalizer.settings.filteredAggregationMark ++ field) raw fault ∧
        error = .response fault := by
  cases raw with
  | terms own =>
      constructor
      · rintro ⟨⟩
      · rintro ⟨fault, ⟨⟩, -⟩
  | filter count inner =>
      unfold ResponseNormalizer.buckets
      dsimp only
      constructor
      · intro failed
        split at failed
        · rename_i noneFound
          cases failed
          refine ⟨_, .missing fun other member sameName => ?_, rfl⟩
          exact List.find?_eq_none.1 noneFound other member (beq_iff_eq.2 sameName)
        · cases failed
        · rename_i found
          obtain ⟨-, before, after, rfl, first⟩ := find?_name_eq_some_iff.1 found
          cases failed
          exact ⟨_, .notTerms first, rfl⟩
      · rintro ⟨fault, lacks, rfl⟩
        cases lacks with
        | missing absent =>
            have noneFound : inner.find? (fun aggregation =>
                aggregation.1 == normalizer.innerName field) = none :=
              List.find?_eq_none.2 fun other member sameName =>
                absent other member (beq_iff_eq.1 sameName)
            rw [noneFound]
            rfl
        | notTerms first => rw [innerName, find?_name_append first]

/-! ## Single aggregations -/

/-- Whether a name stands for a field: it is the field behind the mark, or the field itself and
does not begin with the mark. -/
def Names (normalizer : ResponseNormalizer P) (name field : String) : Prop :=
  name = normalizer.settings.filteredAggregationMark ++ field ∨
    name = field ∧ ∀ rest, name ≠ normalizer.settings.filteredAggregationMark ++ rest

theorem names_iff {name field : String} :
    normalizer.Names name field ↔ normalizer.fieldOf name = field := by
  constructor
  · rintro (rfl | ⟨rfl, unmarked⟩)
    · exact normalizer.fieldOf_mark_append field
    · exact fieldOf_eq_of_not_append unmarked
  · rintro rfl
    by_cases marked : ∃ rest, name = normalizer.settings.filteredAggregationMark ++ rest
    · obtain ⟨rest, rfl⟩ := marked
      exact .inl (by rw [normalizer.fieldOf_mark_append])
    · have unmarked : ∀ rest, name ≠ normalizer.settings.filteredAggregationMark ++ rest :=
        fun rest isMarked => marked ⟨rest, isMarked⟩
      exact .inr ⟨(fieldOf_eq_of_not_append unmarked).symm, unmarked⟩

/-- Whether a name stands for a field, and the field for a parameter. -/
structure Resolves (normalizer : ResponseNormalizer P) (name field : String) (parameter : P) :
    Prop where
  names : normalizer.Names name field
  known : normalizer.catalog.parameterFor field = some parameter

/-- Whether a name stands for a parameter. -/
def IsKnown (normalizer : ResponseNormalizer P) (name : String) : Prop :=
  ∃ field parameter, normalizer.Resolves name field parameter

theorem isKnown_iff {name : String} :
    normalizer.IsKnown name ↔
      (normalizer.catalog.parameterFor (normalizer.fieldOf name)).isSome = true := by
  rw [Option.isSome_iff_exists]
  constructor
  · rintro ⟨field, parameter, names, known⟩
    exact ⟨parameter, (names_iff.1 names).symm ▸ known⟩
  · rintro ⟨parameter, known⟩
    exact ⟨_, parameter, names_iff.2 rfl, known⟩

instance (name : String) : Decidable (normalizer.IsKnown name) :=
  decidable_of_iff _ isKnown_iff.symm

/-- Whether a facet is that of an aggregation: it is the facet of the parameter that the name stands
for, and holds the window of the aggregation's buckets that is asked for, in order, with their
numbers of documents. -/
def IsFacetOf (normalizer : ResponseNormalizer P) (request : FacetedSearchRequest P)
    (aggregation : String × RawAggregation) (facet : Facet P) : Prop :=
  ∃ field buckets, normalizer.Resolves aggregation.1 field facet.parameter ∧
    OwnBuckets (normalizer.settings.filteredAggregationMark ++ field) aggregation.2 buckets ∧
    facet.counts =
      ((buckets.drop (request.facetOffsetFor facet.parameter).toNat).take
        (request.facetLimitFor facet.parameter normalizer.settings.defaultFacetLimit).toNat).map
        fun bucket =>
          ⟨normalizer.catalog.indexedValue facet.parameter bucket.key.asText, bucket.count⟩

theorem IsFacetOf.isKnown {aggregation : String × RawAggregation} {facet : Facet P}
    (isFacet : normalizer.IsFacetOf request aggregation facet) :
    normalizer.IsKnown aggregation.1 := by
  obtain ⟨field, -, resolves, -⟩ := isFacet
  exact ⟨field, facet.parameter, resolves⟩

/-- Whether an aggregation is that of a parameter and lacks its buckets. -/
def Broken (normalizer : ResponseNormalizer P) (aggregation : String × RawAggregation)
    (fault : ResponseFault) : Prop :=
  ∃ field parameter, normalizer.Resolves aggregation.1 field parameter ∧
    LacksBuckets field (normalizer.settings.filteredAggregationMark ++ field) aggregation.2 fault

theorem facet?_eq_ok_some_iff {aggregation : String × RawAggregation} {facet : Facet P} :
    normalizer.facet? request aggregation = .ok (some facet) ↔
      normalizer.IsFacetOf request aggregation facet := by
  rw [facet?_eq_some_iff]
  constructor
  · rintro ⟨parameter, buckets, known, found, rfl⟩
    exact ⟨_, buckets, ⟨names_iff.2 rfl, known⟩, buckets_eq_ok_iff.1 found, rfl⟩
  · rintro ⟨field, buckets, ⟨names, known⟩, own, counts⟩
    obtain rfl := names_iff.1 names
    refine ⟨facet.parameter, buckets, known, buckets_eq_ok_iff.2 own, ?_⟩
    cases facet
    exact congrArg (Facet.mk _) counts.symm

theorem facet?_eq_ok_none_iff {aggregation : String × RawAggregation} :
    normalizer.facet? request aggregation = .ok none ↔ ¬ normalizer.IsKnown aggregation.1 := by
  rw [isKnown_iff]
  unfold facet?
  dsimp only
  cases normalizer.catalog.parameterFor (normalizer.fieldOf aggregation.1) with
  | none => simp
  | some parameter => simp [map_eq_ok_iff]

theorem facet?_eq_error_iff {aggregation : String × RawAggregation} {error : SearchError} :
    normalizer.facet? request aggregation = .error error ↔
      ∃ fault, normalizer.Broken aggregation fault ∧ error = .response fault := by
  unfold facet?
  dsimp only
  constructor
  · intro failed
    split at failed
    · cases failed
    · rename_i parameter known
      obtain ⟨fault, lacks, isFault⟩ := buckets_eq_error_iff.1 (map_eq_error_iff.1 failed)
      exact ⟨fault, ⟨_, parameter, ⟨names_iff.2 rfl, known⟩, lacks⟩, isFault⟩
  · rintro ⟨fault, ⟨field, parameter, ⟨names, known⟩, lacks⟩, isFault⟩
    obtain rfl := names_iff.1 names
    rw [known]
    exact map_eq_error_iff.2 (buckets_eq_error_iff.2 ⟨fault, lacks, isFault⟩)

/-! ## Answers -/

/-- The facets of an answer are those of its aggregations that have one. -/
theorem facetsOf_eq_mapM (request : FacetedSearchRequest P)
    (aggregations : List (String × RawAggregation)) :
    normalizer.facetsOf request aggregations =
      (aggregations.mapM (normalizer.facet? request)).map List.reduceOption := by
  induction aggregations with
  | nil => rfl
  | cons first rest inductionHypothesis =>
      rw [facetsOf, mapM_cons_eq]
      cases normalizer.facet? request first with
      | error error => rfl
      | ok outcome =>
          dsimp only
          rw [inductionHypothesis]
          cases outcome <;> cases rest.mapM (normalizer.facet? request) <;> rfl

/-- Unknown aggregations have no facet, and no fault. -/
theorem facetsOf_filter_isKnown (request : FacetedSearchRequest P)
    (aggregations : List (String × RawAggregation)) :
    normalizer.facetsOf request aggregations =
      normalizer.facetsOf request
        (aggregations.filter fun aggregation => normalizer.IsKnown aggregation.1) := by
  induction aggregations with
  | nil => rfl
  | cons first rest inductionHypothesis =>
      rw [facetsOf, inductionHypothesis]
      by_cases known : normalizer.IsKnown first.1
      · rw [List.filter_cons_of_pos (by simpa using known), facetsOf]
      · rw [List.filter_cons_of_neg (by simpa using known), facet?_eq_ok_none_iff.2 known]

theorem facetsOf_eq_error_iff {aggregations : List (String × RawAggregation)} :
    (∃ error, normalizer.facetsOf request aggregations = .error error) ↔
      ∃ aggregation ∈ aggregations, ∃ fault, normalizer.Broken aggregation fault := by
  simp only [facetsOf_eq_mapM, map_eq_error_iff]
  constructor
  · rintro ⟨error, failed⟩
    obtain ⟨aggregation, member, fails⟩ := exists_error_of_mapM_eq_error failed
    obtain ⟨fault, broken, -⟩ := facet?_eq_error_iff.1 fails
    exact ⟨aggregation, member, fault, broken⟩
  · rintro ⟨aggregation, member, fault, broken⟩
    cases traversed : aggregations.mapM (normalizer.facet? request) with
    | error error => exact ⟨error, rfl⟩
    | ok outcomes =>
        obtain ⟨outcome, -, succeeds⟩ := exists_result_of_mapM_eq_ok traversed member
        rw [facet?_eq_error_iff.2 ⟨fault, broken, rfl⟩] at succeeds
        cases succeeds

/-- An answer is refused for the first aggregation that is broken. -/
theorem exists_first_of_facetsOf_eq_error {aggregations : List (String × RawAggregation)}
    {error : SearchError} (failed : normalizer.facetsOf request aggregations = .error error) :
    ∃ before aggregation after fault, aggregations = before ++ aggregation :: after ∧
      (∀ earlier ∈ before, ∀ other, ¬ normalizer.Broken earlier other) ∧
      normalizer.Broken aggregation fault ∧ error = .response fault := by
  rw [facetsOf_eq_mapM, map_eq_error_iff] at failed
  obtain ⟨before, aggregation, after, split, succeed, fails⟩ :=
    exists_first_of_mapM_eq_error failed
  obtain ⟨fault, broken, isFault⟩ := facet?_eq_error_iff.1 fails
  refine ⟨before, aggregation, after, fault, split, fun earlier member other isBroken => ?_, broken,
    isFault⟩
  obtain ⟨outcome, succeeds⟩ := succeed earlier member
  rw [facet?_eq_error_iff.2 ⟨other, isBroken, rfl⟩] at succeeds
  cases succeeds

/-- The facets are those of the known aggregations, one for each and in their order. -/
theorem forall₂_of_facetsOf_eq_ok {aggregations : List (String × RawAggregation)}
    {facets : List (Facet P)} (found : normalizer.facetsOf request aggregations = .ok facets) :
    List.Forall₂ (normalizer.IsFacetOf request)
      (aggregations.filter fun aggregation => normalizer.IsKnown aggregation.1) facets := by
  rw [facetsOf_eq_mapM, map_eq_ok_iff] at found
  obtain ⟨outcomes, traversed, rfl⟩ := found
  rw [mapM_eq_ok_iff] at traversed
  induction traversed with
  | nil => exact .nil
  | @cons aggregation outcome _ _ here _ inductionHypothesis =>
      cases outcome with
      | none =>
          have unknown := facet?_eq_ok_none_iff.1 here
          rw [List.filter_cons_of_neg (by simpa using unknown), List.reduceOption_cons_of_none]
          exact inductionHypothesis
      | some facet =>
          have isFacet := facet?_eq_ok_some_iff.1 here
          have known := isFacet.isKnown
          rw [List.filter_cons_of_pos (by simpa using known), List.reduceOption_cons_of_some]
          exact .cons isFacet inductionHypothesis

/-- **Facets are total and faithful.** An answer is refused exactly if an aggregation of a known
parameter lacks its buckets, and then for the first such aggregation. Otherwise each aggregation of
a known parameter has one facet with the window of its own buckets, in stable order of the
parameters' positions in the request. Aggregations of unknown fields change nothing, whatever they
hold. -/
theorem facets_faithful (normalizer : ResponseNormalizer P) (request : FacetedSearchRequest P)
    (aggregations : List (String × RawAggregation)) :
    ((∃ error, normalizer.facets request aggregations = .error error) ↔
      ∃ aggregation ∈ aggregations, ∃ fault, normalizer.Broken aggregation fault) ∧
    (∀ error, normalizer.facets request aggregations = .error error →
      ∃ before aggregation after fault, aggregations = before ++ aggregation :: after ∧
        (∀ earlier ∈ before, ∀ other, ¬ normalizer.Broken earlier other) ∧
        normalizer.Broken aggregation fault ∧ error = .response fault) ∧
    (∀ facets, normalizer.facets request aggregations = .ok facets →
      ∃ inOrder, List.Forall₂ (normalizer.IsFacetOf request)
          (aggregations.filter fun aggregation => normalizer.IsKnown aggregation.1) inOrder ∧
        IsStableSort request.position inOrder facets) ∧
    normalizer.facets request aggregations =
      normalizer.facets request
        (aggregations.filter fun aggregation => normalizer.IsKnown aggregation.1) := by
  refine ⟨?_, fun error failed => ?_, fun facets found => ?_, ?_⟩
  · simp only [facets, map_eq_error_iff]
    exact facetsOf_eq_error_iff
  · exact exists_first_of_facetsOf_eq_error (map_eq_error_iff.1 failed)
  · obtain ⟨inOrder, made, rfl⟩ := map_eq_ok_iff.1 found
    exact ⟨inOrder, forall₂_of_facetsOf_eq_ok made, isStableSort_sortBy request.position inOrder⟩
  · rw [facets, facetsOf_filter_isKnown, facets]

end ResponseNormalizer

/-! ## Observations of species -/

namespace Observations

/-- A request for the second and the third value of a facet on countries. -/
def secondPage : FacetedSearchRequest DeclaredParameter where
  facets := [country]
  facetOffset := some 1
  facetLimit := some 2

/-- Years that were not asked for, a filter of an unknown field with nothing in it, and countries
under a marked name. -/
def mixedAnswer : List (String × RawAggregation) :=
  [("year", .filter 9
      [("other", .filter 0 []), ("filtered_year", .terms [⟨.integer 1990, 4⟩, ⟨.integer 2000, 3⟩]),
       ("filtered_year", .filter 0 [])]),
   ("collector", .filter 5 []),
   ("filtered_country",
    .terms [⟨.text "DK", 9⟩, ⟨.text "NO", 7⟩, ⟨.text "SE", 5⟩, ⟨.text "IS", 2⟩])]

theorem facets_faithful_mixedAnswer :
    (∃ facets inOrder, compiler.normalizer.facets secondPage mixedAnswer = .ok facets ∧
      facets.map Facet.parameter = [country, year] ∧
      List.Forall₂ (compiler.normalizer.IsFacetOf secondPage)
        (mixedAnswer.filter fun aggregation => compiler.normalizer.IsKnown aggregation.1) inOrder ∧
      IsStableSort secondPage.position inOrder facets) ∧
    ∃ error,
      compiler.normalizer.facets secondPage (mixedAnswer ++ [("kingdom", .filter 3 [])]) =
        .error error := by
  constructor
  · have found : (compiler.normalizer.facets secondPage mixedAnswer).map
        (fun facets => facets.map Facet.parameter) = .ok [country, year] := by
      decide +kernel
    obtain ⟨facets, isFound, parameters⟩ := map_eq_ok_iff.1 found
    obtain ⟨-, -, faithful, -⟩ := compiler.normalizer.facets_faithful secondPage mixedAnswer
    obtain ⟨inOrder, each, sorted⟩ := faithful facets isFound
    exact ⟨facets, inOrder, isFound, parameters, each, sorted⟩
  · obtain ⟨refused, -⟩ := compiler.normalizer.facets_faithful secondPage
      (mixedAnswer ++ [("kingdom", .filter 3 [])])
    have resolves : compiler.normalizer.Resolves "kingdom" "kingdom" kingdom :=
      ⟨ResponseNormalizer.names_iff.2 (by decide +kernel), by decide +kernel⟩
    have lacks : LacksBuckets "kingdom"
        (compiler.normalizer.settings.filteredAggregationMark ++ "kingdom") (.filter 3 [])
        (.missingInner "kingdom"
          (compiler.normalizer.settings.filteredAggregationMark ++ "kingdom")) :=
      .missing fun other member => absurd member List.not_mem_nil
    exact refused.2 ⟨_, List.mem_concat_self, _, "kingdom", kingdom, resolves, lacks⟩

end Observations

end FacetedSearch
