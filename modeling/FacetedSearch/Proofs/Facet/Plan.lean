import FacetedSearch.Proofs.Query.Filters

/-!
Contract: what the plan of a request's facets can be.

Owns:
- `coveringSize`, the number of buckets that cover a page in plain arithmetic, and
  `aggregationSize_eq_ok_iff` and `aggregationSize_eq_error_iff`, which compare it to the ceiling;
- `facetPlan_of_unmapped`, `facetPlan_of_terms_eq_error` and `facetPlan_of_terms_eq_ok`, the plan of
  each kind of request, where `ReadsFacetFilters` tells the last two plans apart;
- `Planned`, the three plans that a request can have, and `planned_of_facetPlan_eq_ok`;
- `facetPlan_eq_error`, the two causes of a failure;
- `terms_of_planned`: in each plan there is one aggregation for each facet with a field, in order;
- `of_compileFaceted_eq_ok` and `compileFaceted_eq_error`: a compiled search has the parts of its
  plan.

Does not own: how often documents are counted under a plan.
-/

namespace FacetedSearch

variable {P : Type} [SearchParameter P]

/-! ## Sizes -/

theorem toNat_min_word (left right : UInt64) :
    (min left right).toNat = min left.toNat right.toNat := by
  change (if left ≤ right then left else right).toNat = _
  split
  · rename_i less
    exact (Nat.min_eq_left (UInt64.le_iff_toNat_le.1 less)).symm
  · rename_i notLess
    exact (Nat.min_eq_right (Nat.le_of_not_le fun less =>
      notLess (UInt64.le_iff_toNat_le.2 less))).symm

theorem toNat_addCapped (left right : UInt64) :
    (addCapped left right).toNat = min (left.toNat + right.toNat) Numeral.maxWord := by
  have small : min (left.toNat + right.toNat) Numeral.maxWord < 2 ^ 64 :=
    Nat.lt_of_le_of_lt (Nat.min_le_right _ _) (by decide)
  exact Nat.mod_eq_of_lt small

namespace SearchCompiler

/-- The number of buckets that cover a page of a field: the end of the page, cut by the number of
different values as far as it is known, and by the greatest word. -/
def coveringSize (compiler : SearchCompiler P) (field : String) (offset limit : UInt64) : Nat :=
  min (min (offset.toNat + limit.toNat) Numeral.maxWord)
    (((compiler.catalog.cardinalityOf field).map UInt64.toNat).getD Numeral.maxWord)

theorem toNat_size (compiler : SearchCompiler P) (field : String) (offset limit : UInt64) :
    (min (addCapped offset limit)
      ((compiler.catalog.cardinalityOf field).getD Numeral.maxWord.toUInt64)).toNat =
        compiler.coveringSize field offset limit := by
  rw [toNat_min_word, toNat_addCapped, coveringSize]
  cases compiler.catalog.cardinalityOf field <;> rfl

/-- The size of an aggregation is the covering size, if that does not exceed the ceiling. -/
theorem aggregationSize_eq_ok_iff (compiler : SearchCompiler P) (field : String)
    (offset limit size : UInt64) :
    compiler.aggregationSize field offset limit = .ok size ↔
      compiler.coveringSize field offset limit ≤ compiler.settings.maxFacetSize.toNat ∧
        size.toNat = compiler.coveringSize field offset limit := by
  rw [← toNat_size, aggregationSize]
  split
  · rename_i exceeds
    have greater := UInt64.lt_iff_toNat_lt.1 exceeds
    simp only [reduceCtorEq, false_iff]
    omega
  · rename_i fits
    have notGreater := UInt64.le_iff_toNat_le.1 (UInt64.not_lt.1 fits)
    rw [Except.ok.injEq, eq_comm, ← UInt64.toNat_inj]
    simp [notGreater]

/-- The size of an aggregation is refused exactly if the covering size exceeds the ceiling. -/
theorem aggregationSize_eq_error_iff (compiler : SearchCompiler P) (field : String)
    (offset limit : UInt64) (error : SearchError) :
    compiler.aggregationSize field offset limit = .error error ↔
      compiler.settings.maxFacetSize.toNat < compiler.coveringSize field offset limit ∧
        error = .facetTooLarge compiler.settings.maxFacetSize := by
  rw [← toNat_size, aggregationSize]
  split
  · rename_i exceeds
    simp [UInt64.lt_iff_toNat_lt.1 exceeds, eq_comm]
  · rename_i fits
    have notGreater := UInt64.le_iff_toNat_le.1 (UInt64.not_lt.1 fits)
    simp only [reduceCtorEq, false_iff]
    omega

/-! ## Aggregations of single facets -/

theorem mem_mappedFacets (compiler : SearchCompiler P) (request : FacetedSearchRequest P)
    (facet : P × String) :
    facet ∈ compiler.mappedFacets request ↔
      facet.1 ∈ request.facets ∧ compiler.catalog.fieldFor facet.1 = some facet.2 := by
  obtain ⟨parameter, field⟩ := facet
  simp only [mappedFacets, List.mem_filterMap, Option.map_eq_some_iff, Prod.mk.injEq]
  constructor
  · rintro ⟨_, requested, _, mapped, rfl, rfl⟩
    exact ⟨requested, mapped⟩
  · rintro ⟨requested, mapped⟩
    exact ⟨parameter, requested, field, mapped, rfl, rfl⟩

theorem termsAggregation_eq_ok_iff (compiler : SearchCompiler P)
    (request : FacetedSearchRequest P) (facet : P × String) (terms : TermsAggregation P) :
    compiler.termsAggregation request facet = .ok terms ↔
      ∃ size,
        compiler.aggregationSize facet.2 (request.facetOffsetFor facet.1)
          (request.facetLimitFor facet.1 compiler.settings.defaultFacetLimit) = .ok size ∧
        terms =
          ⟨facet.1, facet.2, size, request.facetOffsetFor facet.1,
            request.facetLimitFor facet.1 compiler.settings.defaultFacetLimit,
            request.facetMinCount⟩ := by
  rw [termsAggregation, map_eq_ok_iff]
  simp only [eq_comm]

theorem terms_eq_mappedFacets {compiler : SearchCompiler P} {request : FacetedSearchRequest P}
    {terms : List (TermsAggregation P)}
    (built : (compiler.mappedFacets request).mapM (compiler.termsAggregation request) =
      .ok terms) :
    terms.map (fun terms => (terms.parameter, terms.field)) = compiler.mappedFacets request := by
  rw [mapM_eq_ok_iff] at built
  rw [← List.forall₂_eq_eq_eq, List.forall₂_map_left_iff]
  refine built.flip.imp fun terms facet found => ?_
  obtain ⟨size, -, rfl⟩ := (compiler.termsAggregation_eq_ok_iff request facet terms).1 found
  rfl

/-- Each aggregation is built from its own parameter and field. -/
theorem of_mem_terms {compiler : SearchCompiler P} {request : FacetedSearchRequest P}
    {list : List (TermsAggregation P)}
    (built : (compiler.mappedFacets request).mapM (compiler.termsAggregation request) = .ok list)
    {terms : TermsAggregation P} (member : terms ∈ list) :
    (terms.parameter, terms.field) ∈ compiler.mappedFacets request ∧
      compiler.termsAggregation request (terms.parameter, terms.field) = .ok terms := by
  obtain ⟨facet, mapped, found⟩ := exists_mem_of_mapM_eq_ok built member
  obtain ⟨size, -, same⟩ := (compiler.termsAggregation_eq_ok_iff request facet terms).1 found
  have sameFacet : (terms.parameter, terms.field) = facet := by rw [same]
  rw [sameFacet]
  exact ⟨mapped, found⟩

theorem terms_eq_of_parameter_eq {compiler : SearchCompiler P} {request : FacetedSearchRequest P}
    {list : List (TermsAggregation P)}
    (built : (compiler.mappedFacets request).mapM (compiler.termsAggregation request) = .ok list)
    {first second : TermsAggregation P} (firstMember : first ∈ list)
    (secondMember : second ∈ list) (same : first.parameter = second.parameter) :
    first = second := by
  obtain ⟨firstMapped, firstBuilt⟩ := of_mem_terms built firstMember
  obtain ⟨secondMapped, secondBuilt⟩ := of_mem_terms built secondMember
  have firstField := ((compiler.mem_mappedFacets _ _).1 firstMapped).2
  have secondField := ((compiler.mem_mappedFacets _ _).1 secondMapped).2
  have sameField : first.field = second.field := by
    rw [same, secondField] at firstField
    exact (Option.some.inj firstField).symm
  rw [same, sameField, secondBuilt] at firstBuilt
  exact (Except.ok.inj firstBuilt).symm

/-! ## Plans -/

/-- The filters that count and are on a requested facet. -/
def facetFilters (compiler : SearchCompiler P) (request : FacetedSearchRequest P) :
    ParameterValues P :=
  (compiler.activeParameters request).filterKeys request.facets.contains

/-- The filters that count and are on no requested facet. -/
def otherFilters (compiler : SearchCompiler P) (request : FacetedSearchRequest P) :
    ParameterValues P :=
  (compiler.activeParameters request).filterKeys fun parameter =>
    !request.facets.contains parameter

/-- The trees of the filters on requested facets, in order of the names of their parameters. -/
def facetSelections (compiler : SearchCompiler P) (request : FacetedSearchRequest P) :
    List (P × QueryNode) :=
  sortBy (fun selection => SearchParameter.name selection.1)
    ((compiler.facetFilters request).entries.filterMap compiler.selection?)

/-- The plans of a request. -/
inductive Planned (compiler : SearchCompiler P) (request : FacetedSearchRequest P) :
    FacetPlan P → Prop where
  /-- No requested facet has a field. -/
  | withoutFacets (unmapped : compiler.mappedFacets request = []) :
      Planned compiler request ⟨.none, compiler.activeParameters request, []⟩
  /-- All filters stay in the main query. -/
  | simple {terms : List (TermsAggregation P)}
      (built : (compiler.mappedFacets request).mapM (compiler.termsAggregation request) =
        .ok terms)
      (reason : request.multiSelectFacets = false ∨ (compiler.mappedFacets request).length < 2 ∨
        (compiler.facetFilters request).entries = []) :
      Planned compiler request ⟨.simple terms, compiler.activeParameters request, []⟩
  /-- The filters on requested facets become filters of hits and of aggregations. -/
  | multiSelect {terms : List (TermsAggregation P)}
      (built : (compiler.mappedFacets request).mapM (compiler.termsAggregation request) =
        .ok terms)
      (readable : compiler.Readable (compiler.facetFilters request).entries) :
      Planned compiler request
        ⟨.multiSelect (terms.map (multiSelectFacet (compiler.facetSelections request))),
          compiler.otherFilters request, (compiler.facetSelections request).map Prod.snd⟩

theorem facetPlan_of_unmapped {compiler : SearchCompiler P} {request : FacetedSearchRequest P}
    (unmapped : compiler.mappedFacets request = []) :
    compiler.facetPlan request = .ok ⟨.none, compiler.activeParameters request, []⟩ := by
  rw [facetPlan, unmapped]
  rfl

theorem facetPlan_of_terms_eq_error {compiler : SearchCompiler P}
    {request : FacetedSearchRequest P} {error : SearchError}
    (failed : (compiler.mappedFacets request).mapM (compiler.termsAggregation request) =
      .error error) : compiler.facetPlan request = .error error := by
  cases mapped : (compiler.mappedFacets request).isEmpty with
  | true =>
      rw [List.isEmpty_iff.1 mapped] at failed
      cases failed
  | false =>
      rw [facetPlan]
      simp only [mapped, failed]
      rfl

/-- Whether filters on requested facets are read to plan the facets. -/
structure ReadsFacetFilters (compiler : SearchCompiler P) (request : FacetedSearchRequest P) :
    Prop where
  multiSelect : request.multiSelectFacets = true
  several : 2 ≤ (compiler.mappedFacets request).length
  fits : ∃ terms,
    (compiler.mappedFacets request).mapM (compiler.termsAggregation request) = .ok terms
  selected : (compiler.facetFilters request).entries ≠ []

theorem ReadsFacetFilters.mapped {compiler : SearchCompiler P} {request : FacetedSearchRequest P}
    (reads : compiler.ReadsFacetFilters request) : compiler.mappedFacets request ≠ [] :=
  List.ne_nil_of_length_pos (Nat.lt_of_lt_of_le Nat.two_pos reads.several)

theorem not_readsFacetFilters_iff {compiler : SearchCompiler P} {request : FacetedSearchRequest P}
    {terms : List (TermsAggregation P)}
    (built : (compiler.mappedFacets request).mapM (compiler.termsAggregation request) =
      .ok terms) :
    ¬ compiler.ReadsFacetFilters request ↔
      request.multiSelectFacets = false ∨ (compiler.mappedFacets request).length < 2 ∨
        (compiler.facetFilters request).entries = [] := by
  constructor
  · intro unread
    by_contra read
    simp only [not_or, Bool.not_eq_false, Nat.not_lt] at read
    exact unread ⟨read.1, read.2.1, ⟨terms, built⟩, read.2.2⟩
  · rintro (single | few | none) ⟨multiSelect, several, -, selected⟩
    · rw [single] at multiSelect
      cases multiSelect
    · omega
    · exact selected none

/-- A plan whose aggregations fit reads the filters on its facets, or leaves all filters in the
main query. -/
theorem facetPlan_of_terms_eq_ok {compiler : SearchCompiler P} {request : FacetedSearchRequest P}
    {terms : List (TermsAggregation P)} (mapped : compiler.mappedFacets request ≠ [])
    (built : (compiler.mappedFacets request).mapM (compiler.termsAggregation request) =
      .ok terms) :
    (compiler.ReadsFacetFilters request → compiler.facetPlan request =
      (compiler.filtersOf (compiler.facetFilters request).entries).map fun _ =>
        ⟨.multiSelect (terms.map (multiSelectFacet (compiler.facetSelections request))),
          compiler.otherFilters request, (compiler.facetSelections request).map Prod.snd⟩) ∧
    (¬ compiler.ReadsFacetFilters request →
      compiler.facetPlan request = .ok ⟨.simple terms, compiler.activeParameters request, []⟩) := by
  have simple : (!request.multiSelectFacets ||
      decide ((compiler.mappedFacets request).length < 2) ||
      (compiler.facetFilters request).entries.isEmpty) = true ↔
        ¬ compiler.ReadsFacetFilters request := by
    rw [not_readsFacetFilters_iff built]
    simp [or_assoc]
  rw [facetFilters] at simple
  rw [facetPlan]
  simp only [List.isEmpty_eq_false_iff.2 mapped, built]
  constructor
  · intro reads
    refine (if_neg fun isSimple => simple.1 isSimple reads).trans ?_
    rw [← facetFilters]
    cases read : compiler.filtersOf (compiler.facetFilters request).entries with
    | error error => rfl
    | ok found =>
        rw [((compiler.filtersOf_eq_ok_iff _ found).1 read).2]
        rfl
  · intro unread
    exact if_pos (simple.2 unread)

theorem planned_of_facetPlan_eq_ok {compiler : SearchCompiler P}
    {request : FacetedSearchRequest P} {plan : FacetPlan P}
    (planned : compiler.facetPlan request = .ok plan) : Planned compiler request plan := by
  by_cases unmapped : compiler.mappedFacets request = []
  · rw [facetPlan_of_unmapped unmapped] at planned
    cases planned
    exact .withoutFacets unmapped
  cases built : (compiler.mappedFacets request).mapM (compiler.termsAggregation request) with
  | error error =>
      rw [facetPlan_of_terms_eq_error built] at planned
      cases planned
  | ok terms =>
      obtain ⟨ofRead, ofUnread⟩ := facetPlan_of_terms_eq_ok unmapped built
      by_cases reads : compiler.ReadsFacetFilters request
      · rw [ofRead reads, map_eq_ok_iff] at planned
        obtain ⟨found, read, rfl⟩ := planned
        exact .multiSelect built ((compiler.filtersOf_eq_ok_iff _ found).1 read).1
      · rw [ofUnread reads] at planned
        cases planned
        exact .simple built ((not_readsFacetFilters_iff built).1 reads)

theorem facetPlan_eq_error {compiler : SearchCompiler P} {request : FacetedSearchRequest P}
    {error : SearchError} (failed : compiler.facetPlan request = .error error) :
    (∃ facet ∈ compiler.mappedFacets request,
      compiler.termsAggregation request facet = .error error) ∨
      ¬ compiler.Readable (compiler.facetFilters request).entries := by
  by_cases unmapped : compiler.mappedFacets request = []
  · rw [facetPlan_of_unmapped unmapped] at failed
    cases failed
  cases built : (compiler.mappedFacets request).mapM (compiler.termsAggregation request) with
  | error tooLarge =>
      rw [facetPlan_of_terms_eq_error built] at failed
      cases failed
      exact .inl (exists_error_of_mapM_eq_error built)
  | ok terms =>
      obtain ⟨ofRead, ofUnread⟩ := facetPlan_of_terms_eq_ok unmapped built
      by_cases reads : compiler.ReadsFacetFilters request
      · rw [ofRead reads, map_eq_error_iff] at failed
        refine .inr fun readable => ?_
        rw [(compiler.filtersOf_eq_ok_iff _ _).2 ⟨readable, rfl⟩] at failed
        cases failed
      · rw [ofUnread reads] at failed
        cases failed

theorem terms_of_planned {compiler : SearchCompiler P} {request : FacetedSearchRequest P}
    {plan : FacetPlan P} (planned : Planned compiler request plan) :
    (compiler.mappedFacets request).mapM (compiler.termsAggregation request) =
      .ok plan.aggregations.terms := by
  cases planned with
  | withoutFacets unmapped =>
      rw [unmapped]
      rfl
  | simple built _ => exact built
  | multiSelect built _ =>
      rw [built, AggregationPlan.terms, List.map_map]
      exact congrArg Except.ok (List.map_id _).symm

/-! ## Compiled searches -/

theorem of_compileFaceted_eq_ok {compiler : SearchCompiler P} {request : FacetedSearchRequest P}
    {search : CompiledSearch P} (compiled : compiler.compileFaceted request = .ok search) :
    ∃ plan, Planned compiler request plan ∧
      compiler.query plan.queryParameters request.request.freeText = .ok search.query ∧
      search.postFilter = plan.postFilter ∧ search.aggregations = plan.aggregations := by
  rw [compileFaceted] at compiled
  cases found : compiler.facetPlan request with
  | error error => simp [found] at compiled
  | ok plan =>
      rw [found] at compiled
      dsimp only at compiled
      rw [map_eq_ok_iff] at compiled
      obtain ⟨query, queried, rfl⟩ := compiled
      exact ⟨plan, planned_of_facetPlan_eq_ok found, queried, rfl, rfl⟩

theorem compileFaceted_eq_error {compiler : SearchCompiler P} {request : FacetedSearchRequest P}
    {error : SearchError} (failed : compiler.compileFaceted request = .error error) :
    compiler.facetPlan request = .error error ∨
      ∃ plan, Planned compiler request plan ∧
        compiler.query plan.queryParameters request.request.freeText = .error error := by
  rw [compileFaceted] at failed
  cases found : compiler.facetPlan request with
  | error first =>
      rw [found] at failed
      cases failed
      exact .inl rfl
  | ok plan =>
      rw [found] at failed
      dsimp only at failed
      exact .inr ⟨plan, planned_of_facetPlan_eq_ok found, map_eq_error_iff.1 failed⟩

end SearchCompiler

end FacetedSearch
