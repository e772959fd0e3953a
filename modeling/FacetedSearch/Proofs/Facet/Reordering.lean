import FacetedSearch.Proofs.Facet.Counting
import FacetedSearch.Proofs.Sorting

/-!
Contract: what the order in which a request's filters are visited can change.

Owns:
- `visiting`, a request with its filters in another order, and `SameInEveryOrder`: no caller can
  tell from an outcome which order it was;
- `filters_eq_of_perm` and `query_eq_of_perm`: main queries do not depend on the order, since their
  filters are sorted by name before they are read;
- `facetPlan_visiting`: plans depend on it at most in which of several refused filters is reported,
  since filters on requested facets are read first and sorted after that;
- `Ambiguous` and `sameInEveryOrder_iff`, the requests with several outcomes.

Does not own: whether a filter is refused.
-/

namespace FacetedSearch

/-! ## Entries of maps -/

namespace Keyed

variable {κ α : Type}

theorem eq_of_key_eq (map : Keyed κ α) {first second : κ × α} (firstMember : first ∈ map.entries)
    (secondMember : second ∈ map.entries) (same : first.1 = second.1) : first = second :=
  List.inj_on_of_nodup_map map.distinctKeys firstMember secondMember same

/-- Any entry can be the first one. -/
theorem exists_order_from {map : Keyed κ α} {entry : κ × α} (member : entry ∈ map.entries) :
    ∃ (order : Keyed κ α) (rest : List (κ × α)),
      map.entries.Perm order.entries ∧ order.entries = entry :: rest := by
  obtain ⟨before, after, split⟩ := List.append_of_mem member
  have moved : map.entries.Perm (entry :: (before ++ after)) := split ▸ List.perm_middle
  have distinct := (moved.map Prod.fst).nodup_iff.1 map.distinctKeys
  exact ⟨⟨entry :: (before ++ after), distinct⟩, before ++ after, moved, rfl⟩

end Keyed

variable {P : Type} [SearchParameter P]

/-- Whether no two parameters with fields share a name. -/
def FieldCatalog.DistinctNames (catalog : FieldCatalog P) : Prop :=
  ∀ first second, (catalog.fieldFor first).isSome = true → (catalog.fieldFor second).isSome = true →
    SearchParameter.name first = SearchParameter.name second → first = second

/-- The request with its filters in the given order. -/
def FacetedSearchRequest.visiting (request : FacetedSearchRequest P) (order : ParameterValues P) :
    FacetedSearchRequest P :=
  { request with request := { request.request with parameters := order } }

/-- Outcomes that a caller cannot tell apart: related results, or errors with one message. -/
inductive SameOutcome {α : Type} (same : α → α → Prop) :
    Except SearchError α → Except SearchError α → Prop where
  | ok {left right : α} (results : same left right) : SameOutcome same (.ok left) (.ok right)
  | error {left right : SearchError} (messages : left.message = right.message) :
      SameOutcome same (.error left) (.error right)

theorem SameOutcome.message_eq {α : Type} {same : α → α → Prop} {outcome : Except SearchError α}
    {first second : SearchError} (isFirst : SameOutcome same outcome (.error first))
    (isSecond : SameOutcome same outcome (.error second)) : first.message = second.message := by
  cases isFirst with
  | error firstMessage =>
      cases isSecond with
      | error secondMessage => exact firstMessage.symm.trans secondMessage

/-- Whether a caller cannot tell from an outcome in which order the filters are visited. -/
def FacetedSearchRequest.SameInEveryOrder {α : Type} (request : FacetedSearchRequest P)
    (same : α → α → Prop) (run : FacetedSearchRequest P → Except SearchError α) : Prop :=
  ∀ order : ParameterValues P, request.request.parameters.entries.Perm order.entries →
    SameOutcome same (run request) (run (request.visiting order))

/-- Plans that differ at most in the order of the main query's filters. -/
structure FacetPlan.Same (left right : FacetPlan P) : Prop where
  aggregations : left.aggregations = right.aggregations
  postFilter : left.postFilter = right.postFilter
  queryParameters : left.queryParameters.entries.Perm right.queryParameters.entries

namespace SearchCompiler

/-! ## Queries -/

theorem parameterFilter_of_unmapped {compiler : SearchCompiler P} {parameter : P}
    (unmapped : (compiler.catalog.fieldFor parameter).isSome = false) (values : RawValues) :
    compiler.parameterFilter parameter values = .ok none := by
  rw [Option.isSome_eq_false_iff, Option.isNone_iff_eq_none] at unmapped
  rw [parameterFilter, unmapped]

theorem mapped_of_selection?_eq_some {compiler : SearchCompiler P} {entry : P × RawValues}
    {selection : P × QueryNode} (found : compiler.selection? entry = some selection) :
    (compiler.catalog.fieldFor selection.1).isSome = true := by
  obtain ⟨sameParameter, read⟩ := of_selection?_eq_some found
  rw [sameParameter]
  by_contra unmapped
  rw [Bool.not_eq_true] at unmapped
  rw [parameterFilter_of_unmapped unmapped] at read
  cases read

/-- Entries that have no tree do not matter. -/
theorem filtersOf_filter {compiler : SearchCompiler P} {keeps : P × RawValues → Bool}
    {entries : List (P × RawValues)} (treeless : ∀ entry ∈ entries, keeps entry = false →
      compiler.parameterFilter entry.1 entry.2 = .ok none) :
    compiler.filtersOf entries = compiler.filtersOf (entries.filter keeps) := by
  induction entries with
  | nil => rfl
  | cons entry rest inductionHypothesis =>
      rw [List.forall_mem_cons] at treeless
      cases kept : keeps entry with
      | false =>
          rw [List.filter_cons_of_neg (by simp [kept]), filtersOf, treeless.1 kept]
          exact inductionHypothesis treeless.2
      | true => rw [List.filter_cons_of_pos kept, filtersOf, filtersOf,
          inductionHypothesis treeless.2]

/-- Filters on parameters without a field are never read. -/
theorem filtersOf_mapped (compiler : SearchCompiler P) (entries : List (P × RawValues)) :
    compiler.filtersOf entries =
      compiler.filtersOf (entries.filter fun entry =>
        (compiler.catalog.fieldFor entry.1).isSome) :=
  filtersOf_filter fun entry _ unmapped => parameterFilter_of_unmapped unmapped entry.2

variable {compiler : SearchCompiler P}

theorem filters_eq_of_perm (distinctNames : compiler.catalog.DistinctNames)
    {left right : ParameterValues P} (same : left.entries.Perm right.entries) :
    compiler.filters left = compiler.filters right := by
  rw [filters, filters, filtersOf_mapped, compiler.filtersOf_mapped (sortBy _ right.entries)]
  congr 2
  refine filter_sortBy_eq same fun first firstMember second secondMember firstMapped secondMapped
    sameName => right.eq_of_key_eq firstMember secondMember ?_
  exact distinctNames first.1 second.1 firstMapped secondMapped sameName

theorem query_eq_of_perm (distinctNames : compiler.catalog.DistinctNames)
    {left right : ParameterValues P} (freeText : Option String)
    (same : left.entries.Perm right.entries) :
    compiler.query left freeText = compiler.query right freeText := by
  rw [query, query, filters_eq_of_perm distinctNames same]

/-! ## Filters that count -/

section Visiting

variable (compiler) {request : FacetedSearchRequest P} {order : ParameterValues P}
  (same : request.request.parameters.entries.Perm order.entries)

include same

theorem activeParameters_visiting_perm :
    (compiler.activeParameters request).entries.Perm
      (compiler.activeParameters (request.visiting order)).entries := by
  rw [activeParameters, activeParameters, FacetedSearchRequest.visiting]
  split
  · exact .refl _
  · exact same

theorem facetFilters_visiting_perm :
    (compiler.facetFilters request).entries.Perm
      (compiler.facetFilters (request.visiting order)).entries :=
  (compiler.activeParameters_visiting_perm same).filter _

theorem otherFilters_visiting_perm :
    (compiler.otherFilters request).entries.Perm
      (compiler.otherFilters (request.visiting order)).entries :=
  (compiler.activeParameters_visiting_perm same).filter _

end Visiting

theorem facetSelections_visiting (distinctNames : compiler.catalog.DistinctNames)
    {request : FacetedSearchRequest P} {order : ParameterValues P}
    (same : request.request.parameters.entries.Perm order.entries) :
    compiler.facetSelections request = compiler.facetSelections (request.visiting order) := by
  rw [facetSelections, facetSelections]
  refine sortBy_eq_sortBy ((compiler.facetFilters_visiting_perm same).filterMap _) ?_
  intro first firstMember second secondMember sameName
  obtain ⟨firstEntry, firstIn, firstFound⟩ := List.mem_filterMap.1 firstMember
  obtain ⟨secondEntry, secondIn, secondFound⟩ := List.mem_filterMap.1 secondMember
  have sameParameter : first.1 = second.1 :=
    distinctNames _ _ (mapped_of_selection?_eq_some firstFound)
      (mapped_of_selection?_eq_some secondFound) sameName
  have sameEntry : firstEntry = secondEntry := by
    refine Keyed.eq_of_key_eq _ firstIn secondIn ?_
    rw [← (of_selection?_eq_some firstFound).1, ← (of_selection?_eq_some secondFound).1,
      sameParameter]
  rw [sameEntry, secondFound] at firstFound
  exact (Option.some.inj firstFound).symm

/-! ## Outcomes -/

/-- Whether an entry is refused with the error. -/
def Refuses (compiler : SearchCompiler P) (entries : List (P × RawValues)) (error : SearchError) :
    Prop :=
  ∃ entry ∈ entries, compiler.parameterFilter entry.1 entry.2 = .error error

/-- Entries are refused as the first of them that is. -/
theorem exists_first_of_filtersOf_eq_error {entries : List (P × RawValues)} {error : SearchError}
    (failed : compiler.filtersOf entries = .error error) :
    ∃ before entry after, entries = before ++ entry :: after ∧ compiler.Readable before ∧
      compiler.parameterFilter entry.1 entry.2 = .error error := by
  induction entries with
  | nil => cases failed
  | cons entry rest inductionHypothesis =>
      rw [filtersOf] at failed
      cases read : compiler.parameterFilter entry.1 entry.2 with
      | error first =>
          rw [read] at failed
          cases failed
          exact ⟨[], entry, rest, rfl, fun _ member => absurd member List.not_mem_nil, read⟩
      | ok tree =>
          have later : compiler.filtersOf rest = .error error := by
            rw [read] at failed
            cases tree with
            | none => exact failed
            | some tree => exact map_eq_error_iff.1 failed
          obtain ⟨before, refused, after, rfl, readable, isError⟩ := inductionHypothesis later
          exact ⟨entry :: before, refused, after, rfl,
            List.forall_mem_cons.2 ⟨⟨tree, read⟩, readable⟩, isError⟩

theorem refuses_of_filtersOf_eq_error {entries : List (P × RawValues)} {error : SearchError}
    (failed : compiler.filtersOf entries = .error error) : compiler.Refuses entries error := by
  obtain ⟨before, entry, after, rfl, -, refused⟩ := exists_first_of_filtersOf_eq_error failed
  exact ⟨entry, by simp, refused⟩

theorem filtersOf_eq_error_of_head {entry : P × RawValues} {error : SearchError}
    (refused : compiler.parameterFilter entry.1 entry.2 = .error error)
    (rest : List (P × RawValues)) : compiler.filtersOf (entry :: rest) = .error error := by
  rw [filtersOf, refused]

theorem filtersOf_eq_error_of_perm {left right : List (P × RawValues)} (same : left.Perm right)
    {error : SearchError} (failed : compiler.filtersOf left = .error error) :
    ∃ other, compiler.filtersOf right = .error other := by
  cases read : compiler.filtersOf right with
  | error other => exact ⟨other, rfl⟩
  | ok found =>
      have readable := ((compiler.filtersOf_eq_ok_iff right found).1 read).1.perm same.symm
      rw [(compiler.filtersOf_eq_ok_iff left _).2 ⟨readable, rfl⟩] at failed
      cases failed

/-! ## Plans -/

theorem readsFacetFilters_visiting_iff {request : FacetedSearchRequest P}
    {order : ParameterValues P} (same : request.request.parameters.entries.Perm order.entries) :
    compiler.ReadsFacetFilters (request.visiting order) ↔ compiler.ReadsFacetFilters request := by
  have sameFilters := compiler.facetFilters_visiting_perm same
  constructor
  · rintro ⟨multiSelect, several, fits, selected⟩
    exact ⟨multiSelect, several, fits, fun none => selected (none ▸ sameFilters).nil_eq.symm⟩
  · rintro ⟨multiSelect, several, fits, selected⟩
    exact ⟨multiSelect, several, fits, fun none => selected (none ▸ sameFilters).eq_nil⟩

/-- Another order of the filters changes at most which refused filter is reported. -/
theorem facetPlan_visiting (distinctNames : compiler.catalog.DistinctNames)
    {request : FacetedSearchRequest P} {order : ParameterValues P}
    (same : request.request.parameters.entries.Perm order.entries) :
    SameOutcome FacetPlan.Same (compiler.facetPlan request)
        (compiler.facetPlan (request.visiting order)) ∨
      compiler.ReadsFacetFilters request ∧
        ∃ first second, compiler.facetPlan request = .error first ∧
          compiler.facetPlan (request.visiting order) = .error second ∧
          compiler.Refuses (compiler.facetFilters request).entries first ∧
          compiler.Refuses (compiler.facetFilters request).entries second := by
  have sameActive := compiler.activeParameters_visiting_perm same
  have sameFilters := compiler.facetFilters_visiting_perm same
  by_cases unmapped : compiler.mappedFacets request = []
  · have otherUnmapped : compiler.mappedFacets (request.visiting order) = [] := unmapped
    rw [facetPlan_of_unmapped unmapped, facetPlan_of_unmapped otherUnmapped]
    exact .inl (.ok ⟨rfl, rfl, sameActive⟩)
  cases built : (compiler.mappedFacets request).mapM (compiler.termsAggregation request) with
  | error error =>
      have otherBuilt : (compiler.mappedFacets (request.visiting order)).mapM
          (compiler.termsAggregation (request.visiting order)) = .error error := built
      rw [facetPlan_of_terms_eq_error built, facetPlan_of_terms_eq_error otherBuilt]
      exact .inl (.error rfl)
  | ok terms =>
      obtain ⟨ofRead, ofUnread⟩ := facetPlan_of_terms_eq_ok unmapped built
      have otherUnmapped : compiler.mappedFacets (request.visiting order) ≠ [] := unmapped
      obtain ⟨otherOfRead, otherOfUnread⟩ := facetPlan_of_terms_eq_ok otherUnmapped built
      rw [readsFacetFilters_visiting_iff same] at otherOfRead otherOfUnread
      by_cases reads : compiler.ReadsFacetFilters request
      · rw [ofRead reads, otherOfRead reads, ← facetSelections_visiting distinctNames same]
        cases found : compiler.filtersOf (compiler.facetFilters request).entries with
        | ok selections =>
            have readable := ((compiler.filtersOf_eq_ok_iff _ selections).1 found).1
            rw [(compiler.filtersOf_eq_ok_iff _ _).2 ⟨readable.perm sameFilters, rfl⟩]
            exact .inl (.ok ⟨rfl, rfl, compiler.otherFilters_visiting_perm same⟩)
        | error first =>
            -- The other order is refused as well, but maybe for another entry.
            obtain ⟨second, otherFound⟩ := filtersOf_eq_error_of_perm sameFilters found
            obtain ⟨entry, member, refused⟩ := refuses_of_filtersOf_eq_error otherFound
            rw [otherFound]
            exact .inr ⟨reads, first, second, rfl, rfl, refuses_of_filtersOf_eq_error found,
              entry, sameFilters.mem_iff.2 member, refused⟩
      · rw [ofUnread reads, otherOfUnread reads]
        exact .inl (.ok ⟨rfl, rfl, sameActive⟩)

theorem compileFaceted_visiting (distinctNames : compiler.catalog.DistinctNames)
    {request : FacetedSearchRequest P} {order : ParameterValues P}
    (planned : SameOutcome FacetPlan.Same (compiler.facetPlan request)
      (compiler.facetPlan (request.visiting order))) :
    SameOutcome Eq (compiler.compileFaceted request)
      (compiler.compileFaceted (request.visiting order)) := by
  rw [compileFaceted, compileFaceted]
  generalize compiler.facetPlan request = first at planned ⊢
  generalize compiler.facetPlan (request.visiting order) = second at planned ⊢
  cases planned with
  | error messages => exact .error messages
  | ok results =>
      obtain ⟨aggregations, postFilter, queryParameters⟩ := results
      dsimp only
      rw [aggregations, postFilter, query_eq_of_perm distinctNames _ queryParameters]
      have sameText : (request.visiting order).request.freeText = request.request.freeText := rfl
      rw [sameText]
      -- What is left of the two requests differs in the filters only, which nothing reads.
      cases compiler.query _ request.request.freeText with
      | error error => exact .error rfl
      | ok query => exact .ok rfl

/-! ## Reported errors -/

/-- Whether filters on requested facets are refused for reasons with different messages. -/
def Ambiguous (compiler : SearchCompiler P) (request : FacetedSearchRequest P) : Prop :=
  compiler.ReadsFacetFilters request ∧
    ∃ first second, compiler.Refuses (compiler.facetFilters request).entries first ∧
      compiler.Refuses (compiler.facetFilters request).entries second ∧
      first.message ≠ second.message

/-- Any filter on a requested facet is the first one in some order. -/
theorem exists_order_of_facetFilter {request : FacetedSearchRequest P} {entry : P × RawValues}
    (member : entry ∈ (compiler.facetFilters request).entries) :
    ∃ (order : ParameterValues P) (rest : List (P × RawValues)),
      request.request.parameters.entries.Perm order.entries ∧
        (compiler.facetFilters (request.visiting order)).entries = entry :: rest := by
  obtain ⟨active, onFacet⟩ := (Keyed.mem_filterKeys _ _ _).1 member
  rw [activeParameters] at active
  split at active
  · cases active
  · rename_i notAll
    obtain ⟨order, rest, same, first⟩ := Keyed.exists_order_from active
    have reordered : compiler.activeParameters (request.visiting order) = order := if_neg notAll
    refine ⟨order, rest.filter fun other => request.facets.contains other.1, same, ?_⟩
    rw [facetFilters, reordered]
    show order.entries.filter (fun other => request.facets.contains other.1) = _
    rw [first]
    exact List.filter_cons_of_pos
      (p := fun other : P × RawValues => request.facets.contains other.1) onFacet

/-- Each refused filter on a requested facet is reported in some order. -/
theorem exists_order_reporting {request : FacetedSearchRequest P}
    (reads : compiler.ReadsFacetFilters request) {error : SearchError}
    (refuses : compiler.Refuses (compiler.facetFilters request).entries error) :
    ∃ order : ParameterValues P, request.request.parameters.entries.Perm order.entries ∧
      compiler.facetPlan (request.visiting order) = .error error := by
  obtain ⟨entry, member, refused⟩ := refuses
  obtain ⟨order, rest, same, first⟩ := exists_order_of_facetFilter member
  obtain ⟨terms, built⟩ := reads.fits
  have readsOrder := (readsFacetFilters_visiting_iff same).2 reads
  obtain ⟨ofRead, -⟩ := facetPlan_of_terms_eq_ok readsOrder.mapped built
  refine ⟨order, same, ?_⟩
  rw [ofRead readsOrder, first,
    filtersOf_eq_error_of_head refused]
  rfl

theorem compileFaceted_eq_error_of_plan {request : FacetedSearchRequest P} {error : SearchError}
    (failed : compiler.facetPlan request = .error error) :
    compiler.compileFaceted request = .error error := by
  rw [compileFaceted, failed]

theorem sameInEveryOrder_of_not_ambiguous (distinctNames : compiler.catalog.DistinctNames)
    {request : FacetedSearchRequest P} (clear : ¬ compiler.Ambiguous request) :
    request.SameInEveryOrder FacetPlan.Same compiler.facetPlan := by
  intro order same
  rcases facetPlan_visiting distinctNames same with planned | ⟨reads, first, second, failed,
    otherFailed, firstRefused, secondRefused⟩
  · exact planned
  · have sameMessage : first.message = second.message := by
      by_contra different
      exact clear ⟨reads, first, second, firstRefused, secondRefused, different⟩
    rw [failed, otherFailed]
    exact .error sameMessage

/-- Whatever reports the failures of plans tells the orders of an ambiguous request apart. -/
theorem not_ambiguous_of_sameInEveryOrder {α : Type} {same : α → α → Prop}
    {run : FacetedSearchRequest P → Except SearchError α}
    (reports : ∀ request error, compiler.facetPlan request = .error error →
      run request = .error error)
    {request : FacetedSearchRequest P} (blind : request.SameInEveryOrder same run) :
    ¬ compiler.Ambiguous request := by
  rintro ⟨reads, first, second, firstRefused, secondRefused, different⟩
  obtain ⟨order, reordered, failed⟩ := exists_order_reporting reads firstRefused
  obtain ⟨otherOrder, otherReordered, otherFailed⟩ := exists_order_reporting reads secondRefused
  -- Both messages would be that of the request's own outcome.
  have outcome := blind order reordered
  have otherOutcome := blind otherOrder otherReordered
  rw [reports _ _ failed] at outcome
  rw [reports _ _ otherFailed] at otherOutcome
  exact different (outcome.message_eq otherOutcome)

theorem not_ambiguous_of_facetPlan_eq_ok {request : FacetedSearchRequest P} {plan : FacetPlan P}
    (planned : compiler.facetPlan request = .ok plan) : ¬ compiler.Ambiguous request := by
  rintro ⟨reads, error, -, ⟨entry, member, refused⟩, -, -⟩
  obtain ⟨terms, built⟩ := reads.fits
  rw [(facetPlan_of_terms_eq_ok reads.mapped built).1 reads, map_eq_ok_iff] at planned
  obtain ⟨found, read, -⟩ := planned
  obtain ⟨tree, readable⟩ := ((compiler.filtersOf_eq_ok_iff _ found).1 read).1 entry member
  rw [refused] at readable
  cases readable

/-- **Only failures can show the order of the filters.** A plan and a compiled search that succeed
are the same for every order in which the filters of a request are visited. The message of a
failure is the same for every order exactly if no two filters on requested facets are refused for
different reasons while the facets are planned: those are read in the order of the visit, all other
filters in order of their names. -/
theorem sameInEveryOrder_iff (compiler : SearchCompiler P)
    (distinctNames : compiler.catalog.DistinctNames) (request : FacetedSearchRequest P) :
    (∀ plan, compiler.facetPlan request = .ok plan →
      request.SameInEveryOrder FacetPlan.Same compiler.facetPlan) ∧
    (∀ search, compiler.compileFaceted request = .ok search →
      request.SameInEveryOrder Eq compiler.compileFaceted) ∧
    (request.SameInEveryOrder FacetPlan.Same compiler.facetPlan ↔
      ¬ compiler.Ambiguous request) ∧
    (request.SameInEveryOrder Eq compiler.compileFaceted ↔ ¬ compiler.Ambiguous request) := by
  have plans (clear : ¬ compiler.Ambiguous request) :=
    sameInEveryOrder_of_not_ambiguous distinctNames clear
  have searches (clear : ¬ compiler.Ambiguous request) :
      request.SameInEveryOrder Eq compiler.compileFaceted := fun order same =>
    compileFaceted_visiting distinctNames (plans clear order same)
  refine ⟨fun plan planned => plans (not_ambiguous_of_facetPlan_eq_ok planned),
    fun search compiled => ?_, ⟨?_, plans⟩, ⟨?_, searches⟩⟩
  · cases planned : compiler.facetPlan request with
    | ok plan => exact searches (not_ambiguous_of_facetPlan_eq_ok planned)
    | error error =>
        rw [compileFaceted_eq_error_of_plan planned] at compiled
        cases compiled
  · exact not_ambiguous_of_sameInEveryOrder fun _ _ failed => failed
  · exact not_ambiguous_of_sameInEveryOrder fun _ _ => compileFaceted_eq_error_of_plan

end SearchCompiler

namespace Observations

theorem distinctNames : compiler.catalog.DistinctNames := by
  have names : ∀ first ∈ [country, year, kingdom], ∀ second ∈ [country, year, kingdom],
      first.name = second.name → first = second := by decide
  have listed {parameter : DeclaredParameter}
      (mapped : (compiler.catalog.fieldFor parameter).isSome = true) :
      parameter ∈ [country, year, kingdom] := by
    obtain ⟨field, found⟩ := Option.isSome_iff_exists.1 mapped
    exact List.mem_map_of_mem (f := Prod.fst) (mem_of_fieldFor found)
  intro first second firstMapped secondMapped sameName
  exact names first (listed firstMapped) second (listed secondMapped) sameName

/-- Two facets with selections that are refused for different reasons. -/
def refused : FacetedSearchRequest DeclaredParameter where
  request :=
    { parameters := .ofEntries [(year, .ofList ["unknown"]), (country, .ofList ["!"])] }
  facets := [country, year]
  multiSelectFacets := true

theorem sameInEveryOrder_iff_observations :
    request.SameInEveryOrder Eq compiler.compileFaceted ∧ compiler.Ambiguous refused ∧
      ¬ refused.SameInEveryOrder FacetPlan.Same compiler.facetPlan ∧
      ¬ refused.SameInEveryOrder Eq compiler.compileFaceted := by
  have compiled : (compiler.compileFaceted request).map (fun search => search.postFilter.length) =
      .ok 2 := rfl
  obtain ⟨search, compiled, -⟩ := map_eq_ok_iff.1 compiled
  have reads : compiler.ReadsFacetFilters refused :=
    ⟨rfl, by decide, ⟨_, rfl⟩, List.cons_ne_nil _ _⟩
  have ambiguous : compiler.Ambiguous refused :=
    ⟨reads, .value (.malformed "unknown" "integer"), .value (.nothingToNegate "!"),
      ⟨(year, .ofList ["unknown"]), by decide, rfl⟩, ⟨(country, .ofList ["!"]), by decide, rfl⟩,
      by decide⟩
  obtain ⟨-, searches, -, -⟩ := compiler.sameInEveryOrder_iff distinctNames request
  obtain ⟨-, -, planIff, searchIff⟩ := compiler.sameInEveryOrder_iff distinctNames refused
  exact ⟨searches search compiled, ambiguous, fun blind => planIff.1 blind ambiguous,
    fun blind => searchIff.1 blind ambiguous⟩

/-- The selections of `refused` in the other order. -/
def refusedOrder : ParameterValues DeclaredParameter :=
  .ofEntries [(country, .ofList ["!"]), (year, .ofList ["unknown"])]

theorem refused_tells_orders_apart :
    compiler.catalog.DistinctNames ∧
      refused.request.parameters.entries.Perm refusedOrder.entries ∧
      (compiler.compileFaceted refused).mapError SearchError.message =
        .error "Invalid value: 'unknown' is not a valid integer" ∧
      (compiler.compileFaceted (refused.visiting refusedOrder)).mapError SearchError.message =
        .error "Invalid value: negated value '!' has nothing to negate" ∧
      ¬ refused.SameInEveryOrder FacetPlan.Same compiler.facetPlan ∧
      ¬ refused.SameInEveryOrder Eq compiler.compileFaceted := by
  have reordered : refused.request.parameters.entries.Perm refusedOrder.entries := .swap _ _ _
  have different : SearchError.message (.value (.malformed "unknown" "integer")) ≠
      SearchError.message (.value (.nothingToNegate "!")) := by decide
  refine ⟨distinctNames, reordered, rfl, rfl, fun blind => ?_, fun blind => ?_⟩
  · have outcomes : SameOutcome FacetPlan.Same
        (.error (.value (.malformed "unknown" "integer")))
        (.error (.value (.nothingToNegate "!"))) := blind refusedOrder reordered
    cases outcomes with
    | error messages => exact different messages
  · have outcomes : SameOutcome Eq (.error (.value (.malformed "unknown" "integer")))
        (.error (.value (.nothingToNegate "!"))) := blind refusedOrder reordered
    cases outcomes with
    | error messages => exact different messages

end Observations

end FacetedSearch
