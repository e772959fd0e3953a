import FacetedSearch.Proofs.Facet.Reordering
import FacetedSearch.Proofs.Query.Selections
import FacetedSearch.Proofs.Text.Bytes
import FacetedSearch.Request.Step

/-!
Contract: which of several raw values the failure of a request's filters is about.

Owns:
- `IsRead`, the raw values that count, and `FirstRefused`, the first of them that is refused, by the
  names of the parameters and then by bytes;
- `filters_eq_error_iff`: the failure of filters is the refusal of that value;
- `IsListing`, one tree for each parameter that counts, in order of the names;
- `filters_eq_of_selects`: filters are compiled alike if they select the same for each parameter
  with a field;
- `filters_all_or_nothing`, which puts these together.

Does not own: the order of facets and of what is read for them.
-/

namespace FacetedSearch

open Text

/-- In an ordered list, what the order does not put behind an element stands before it. -/
theorem mem_before_of_not_after {α : Type} {relation : α → α → Prop} {before after : List α}
    {element other : α} (ordered : (before ++ element :: after).Pairwise relation)
    (member : other ∈ before ++ element :: after) (different : other ≠ element)
    (notAfter : ¬ relation element other) : other ∈ before := by
  rcases List.mem_append.1 member with inBefore | inRest
  · exact inBefore
  · rcases List.mem_cons.1 inRest with same | inAfter
    · exact absurd same different
    · have elementFirst := (List.pairwise_cons.1 (List.pairwise_append.1 ordered).2.1).1
      exact absurd (elementFirst other inAfter) notAfter

variable {P : Type}

/-! ## Selected values -/

/-- Whether a raw value is selected for a parameter. -/
def ParameterValues.Selects (parameters : ParameterValues P) (parameter : P) (raw : String) :
    Prop :=
  ∃ values, (parameter, values) ∈ parameters.entries ∧ raw ∈ values.values

theorem selects_iff_of_mem {parameters : ParameterValues P} {parameter : P} {values : RawValues}
    (member : (parameter, values) ∈ parameters.entries) {raw : String} :
    parameters.Selects parameter raw ↔ raw ∈ values.values := by
  constructor
  · rintro ⟨others, otherMember, selected⟩
    cases parameters.eq_of_key_eq otherMember member rfl
    exact selected
  · intro selected
    exact ⟨values, member, selected⟩

/-- A set of raw values is given by its members. -/
theorem RawValues.eq_of_mem_iff {left right : RawValues}
    (same : ∀ raw, raw ∈ left.values ↔ raw ∈ right.values) : left = right := by
  have distinct (set : RawValues) : set.values.Nodup :=
    set.ascending.imp fun less => String.ne_of_lt less
  have perm := (List.perm_ext_iff_of_nodup (distinct left) (distinct right)).2 same
  have sameValues : left.values = right.values := by
    refine List.Perm.eq_of_pairwise ?_ left.ascending right.ascending perm
    exact fun first second _ _ less greater => absurd greater (String.lt_asymm less)
  cases left
  cases right
  cases sameValues
  rfl

variable [SearchParameter P]

namespace SearchCompiler

variable {compiler : SearchCompiler P} {parameters others : ParameterValues P}

/-! ## Values that are read -/

/-- Whether a raw value is read: it is selected for a parameter that has a field. -/
structure IsRead (compiler : SearchCompiler P) (parameters : ParameterValues P) (parameter : P)
    (field raw : String) : Prop where
  mapped : compiler.catalog.fieldFor parameter = some field
  selected : parameters.Selects parameter raw

/-- Whether a raw value of a parameter with a field can be read. -/
def Accepts (compiler : SearchCompiler P) (parameter : P) (field raw : String) : Prop :=
  ∃ selection, compiler.readSelection parameter field raw = .ok selection

theorem exists_parameterFilter_iff {parameter : P} {field : String}
    (mapped : compiler.catalog.fieldFor parameter = some field) {values : RawValues} :
    (∃ tree, compiler.parameterFilter parameter values = .ok tree) ↔
      ∀ raw ∈ values.values, compiler.Accepts parameter field raw := by
  unfold Accepts
  rw [parameterFilter, mapped, ← exists_mapM_eq_ok_iff]
  simp only [map_eq_ok_iff]
  constructor
  · rintro ⟨tree, selections, read, -⟩
    exact ⟨selections, read⟩
  · rintro ⟨selections, read⟩
    exact ⟨_, selections, read, rfl⟩

/-- Filters are readable exactly if each value that is read is accepted. -/
theorem readable_iff :
    compiler.Readable parameters.entries ↔
      ∀ parameter field raw, compiler.IsRead parameters parameter field raw →
        compiler.Accepts parameter field raw := by
  constructor
  · rintro readable parameter field raw ⟨mapped, values, member, selected⟩
    exact (exists_parameterFilter_iff mapped).1 (readable _ member) raw selected
  · rintro accepted ⟨parameter, values⟩ member
    cases mapped : compiler.catalog.fieldFor parameter with
    | none => exact ⟨none, parameterFilter_of_unmapped (by simp [mapped]) values⟩
    | some field =>
        refine (exists_parameterFilter_iff mapped).2 fun raw selected => ?_
        exact accepted parameter field raw ⟨mapped, values, member, selected⟩

theorem exists_filters_iff :
    (∃ nodes, compiler.filters parameters = .ok nodes) ↔ compiler.Readable parameters.entries := by
  constructor
  · rintro ⟨nodes, compiled⟩
    exact readable_of_filters_eq_ok compiled
  · intro readable
    obtain ⟨nodes, compiled, -⟩ := filters_eq_ok readable
    exact ⟨nodes, compiled⟩

/-! ## Refusals -/

/-- Whether a raw value is refused with an error, and all values that are read are accepted if they
belong to a parameter with a smaller name, or to the same parameter and have smaller bytes. -/
structure FirstRefused (compiler : SearchCompiler P) (parameters : ParameterValues P)
    (error : SearchError) (parameter : P) (field raw : String) : Prop where
  isRead : compiler.IsRead parameters parameter field raw
  refused : compiler.readSelection parameter field raw = .error error
  accepted : ∀ other otherField otherRaw,
    compiler.IsRead parameters other otherField otherRaw →
    BytesBefore (SearchParameter.name other) (SearchParameter.name parameter) ∨
      other = parameter ∧ BytesBefore otherRaw raw →
    compiler.Accepts other otherField otherRaw

/-- The values of a parameter are refused as the first of them by bytes that is. -/
theorem exists_first_of_parameterFilter_eq_error {parameter : P} {values : RawValues}
    {error : SearchError} (isError : compiler.parameterFilter parameter values = .error error) :
    ∃ field raw, compiler.catalog.fieldFor parameter = some field ∧ raw ∈ values.values ∧
      compiler.readSelection parameter field raw = .error error ∧
      ∀ other ∈ values.values, BytesBefore other raw → compiler.Accepts parameter field other := by
  cases mapped : compiler.catalog.fieldFor parameter with
  | none =>
      rw [parameterFilter_of_unmapped (by simp [mapped])] at isError
      cases isError
  | some field =>
      rw [parameterFilter, mapped] at isError
      obtain ⟨before, raw, after, split, accepted, refused⟩ :=
        exists_first_of_mapM_eq_error (map_eq_error_iff.1 isError)
      refine ⟨field, raw, rfl, by simp [split], refused, fun other member smaller => ?_⟩
      rw [bytesBefore_iff] at smaller
      have ordered := values.ascending
      rw [split] at ordered member
      apply accepted other
      exact mem_before_of_not_after ordered member (String.ne_of_lt smaller)
        (String.lt_asymm smaller)

/-- Filters are refused as the first entry by name that is. -/
theorem exists_first_of_filters_eq_error {error : SearchError}
    (failed : compiler.filters parameters = .error error) :
    ∃ entry ∈ parameters.entries, compiler.parameterFilter entry.1 entry.2 = .error error ∧
      ∀ other ∈ parameters.entries,
        BytesBefore (SearchParameter.name other.1) (SearchParameter.name entry.1) →
        ∃ tree, compiler.parameterFilter other.1 other.2 = .ok tree := by
  have ascends := ascending_sortBy (fun entry => SearchParameter.name entry.1) parameters.entries
  have listed (entry : P × RawValues) := mem_sortBy (fun entry => SearchParameter.name entry.1)
    entry parameters.entries
  obtain ⟨before, entry, after, split, readable, isError⟩ :=
    exists_first_of_filtersOf_eq_error (map_eq_error_iff.1 failed)
  rw [split] at ascends listed
  refine ⟨entry, (listed entry).1 (by simp), isError, fun other member smaller => ?_⟩
  rw [bytesBefore_iff] at smaller
  apply readable other
  refine mem_before_of_not_after ascends ((listed other).2 member) ?_ (String.not_le.2 smaller)
  rintro rfl
  exact String.lt_irrefl _ smaller

theorem firstRefused_of_filters_eq_error {error : SearchError}
    (failed : compiler.filters parameters = .error error) :
    ∃ parameter field raw, compiler.FirstRefused parameters error parameter field raw := by
  obtain ⟨⟨parameter, values⟩, member, isError, readable⟩ := exists_first_of_filters_eq_error failed
  obtain ⟨field, raw, mapped, selected, refused, accepted⟩ :=
    exists_first_of_parameterFilter_eq_error isError
  refine ⟨parameter, field, raw, ⟨mapped, values, member, selected⟩, refused, ?_⟩
  rintro other otherField otherRaw ⟨otherMapped, otherValues, otherMember, otherSelected⟩
    (smallerName | ⟨rfl, smallerBytes⟩)
  · have otherRead := readable (other, otherValues) otherMember smallerName
    exact (exists_parameterFilter_iff otherMapped).1 otherRead otherRaw otherSelected
  · cases parameters.eq_of_key_eq otherMember member rfl
    cases otherMapped.symm.trans mapped
    exact accepted otherRaw otherSelected smallerBytes

namespace FirstRefused

variable {error otherError : SearchError} {parameter other : P}
  {field otherField raw otherRaw : String}

theorem not_accepts (first : compiler.FirstRefused parameters error parameter field raw) :
    ¬ compiler.Accepts parameter field raw := by
  rintro ⟨selection, accepted⟩
  rw [first.refused] at accepted
  cases accepted

/-- No value that is refused comes before the first one. -/
theorem not_before (first : compiler.FirstRefused parameters error parameter field raw)
    (second : compiler.FirstRefused parameters otherError other otherField otherRaw) :
    ¬ (BytesBefore (SearchParameter.name other) (SearchParameter.name parameter) ∨
      other = parameter ∧ BytesBefore otherRaw raw) :=
  fun before => second.not_accepts (first.accepted other otherField otherRaw second.isRead before)

/-- If no two parameters with fields share a name, there is one first refusal. -/
theorem error_eq (distinctNames : compiler.catalog.DistinctNames)
    (first : compiler.FirstRefused parameters error parameter field raw)
    (second : compiler.FirstRefused parameters otherError other otherField otherRaw) :
    error = otherError := by
  have notSecond := first.not_before second
  have notFirst := second.not_before first
  simp only [bytesBefore_iff, not_or, not_and, String.not_lt] at notSecond notFirst
  have sameParameter : parameter = other :=
    distinctNames parameter other (by simp [first.isRead.mapped]) (by simp [second.isRead.mapped])
      (String.le_antisymm notSecond.1 notFirst.1)
  subst sameParameter
  have sameRaw : raw = otherRaw := String.le_antisymm (notSecond.2 rfl) (notFirst.2 rfl)
  subst sameRaw
  cases first.isRead.mapped.symm.trans second.isRead.mapped
  cases first.refused.symm.trans second.refused
  rfl

end FirstRefused

/-- Filters fail exactly as the first value that is refused. -/
theorem filters_eq_error_iff (distinctNames : compiler.catalog.DistinctNames)
    {error : SearchError} :
    compiler.filters parameters = .error error ↔
      ∃ parameter field raw, compiler.FirstRefused parameters error parameter field raw := by
  constructor
  · exact firstRefused_of_filters_eq_error
  · rintro ⟨parameter, field, raw, first⟩
    cases compiled : compiler.filters parameters with
    | ok nodes =>
        have accepted := readable_iff.1 (readable_of_filters_eq_ok compiled)
        exact absurd (accepted parameter field raw first.isRead) first.not_accepts
    | error otherError =>
        obtain ⟨other, otherField, otherRaw, second⟩ := firstRefused_of_filters_eq_error compiled
        rw [first.error_eq distinctNames second]

/-! ## Trees of values -/

/-- A parameter with a field has a tree exactly if it has values. -/
theorem eq_none_iff_of_parameterFilter_eq_ok {parameter : P} {field : String}
    (mapped : compiler.catalog.fieldFor parameter = some field) {values : RawValues}
    {tree : Option QueryNode} (read : compiler.parameterFilter parameter values = .ok tree) :
    tree = none ↔ values.values = [] := by
  rw [parameterFilter, mapped] at read
  obtain ⟨selections, traversed, rfl⟩ := map_eq_ok_iff.1 read
  have sameLength := ((mapM_eq_ok_iff _ _ _).1 traversed).length_eq
  rw [selectionNode_eq_none_iff, ← List.length_eq_zero_iff, ← List.length_eq_zero_iff, sameLength]

/-- Trees of parameters in order of the parameters' names: one for each parameter of which a value
is read, and that of the values that are selected for it. -/
structure IsListing (compiler : SearchCompiler P) (parameters : ParameterValues P)
    (listing : List (P × QueryNode)) : Prop where
  ascending : listing.Pairwise fun first second =>
    BytesBefore (SearchParameter.name first.1) (SearchParameter.name second.1)
  complete : ∀ parameter, parameter ∈ listing.map Prod.fst ↔
    ∃ field raw, compiler.IsRead parameters parameter field raw
  trees : ∀ parameter tree, (parameter, tree) ∈ listing →
    ∃ values, (parameter, values) ∈ parameters.entries ∧
      compiler.parameterFilter parameter values = .ok (some tree)

theorem selection?_eq_some_iff {entry : P × RawValues} {selection : P × QueryNode} :
    compiler.selection? entry = some selection ↔
      selection.1 = entry.1 ∧
        compiler.parameterFilter entry.1 entry.2 = .ok (some selection.2) := by
  constructor
  · exact of_selection?_eq_some
  · rintro ⟨sameParameter, read⟩
    rw [selection?, read, ← sameParameter]

/-- The trees of filters in order of the names are a listing. -/
theorem isListing_of_readable (distinctNames : compiler.catalog.DistinctNames)
    (readable : compiler.Readable parameters.entries) :
    compiler.IsListing parameters
      ((sortBy (fun entry => SearchParameter.name entry.1) parameters.entries).filterMap
        compiler.selection?) where
  ascending := by
    have ascends := ascending_sortBy (fun entry => SearchParameter.name entry.1) parameters.entries
    have keys := ((sortBy_perm (fun entry => SearchParameter.name entry.1)
      parameters.entries).map Prod.fst).nodup_iff.2 parameters.distinctKeys
    rw [List.pairwise_filterMap]
    refine (ascends.and (List.pairwise_map.1 keys)).imp ?_
    rintro entry other ⟨notGreater, different⟩ first isFirst second isSecond
    have firstMapped := mapped_of_selection?_eq_some isFirst
    have secondMapped := mapped_of_selection?_eq_some isSecond
    rw [selection?_eq_some_iff] at isFirst isSecond
    rw [bytesBefore_iff, ← String.not_le]
    intro notLess
    rw [← isFirst.1, ← isSecond.1] at notGreater different
    exact different (distinctNames _ _ firstMapped secondMapped
      (String.le_antisymm notGreater notLess))
  complete := by
    intro parameter
    rw [List.mem_map]
    constructor
    · rintro ⟨selection, member, rfl⟩
      obtain ⟨⟨parameter, values⟩, inEntries, found⟩ := List.mem_filterMap.1 member
      obtain ⟨field, mapped⟩ := Option.isSome_iff_exists.1 (mapped_of_selection?_eq_some found)
      obtain ⟨sameParameter, read⟩ := selection?_eq_some_iff.1 found
      dsimp only at sameParameter read
      rw [sameParameter] at mapped ⊢
      obtain ⟨raw, selected⟩ := List.exists_mem_of_ne_nil values.values fun noValues => by
        cases (eq_none_iff_of_parameterFilter_eq_ok mapped read).2 noValues
      exact ⟨field, raw, mapped, values, (mem_sortBy _ _ _).1 inEntries, selected⟩
    · rintro ⟨field, raw, mapped, values, inEntries, selected⟩
      obtain ⟨tree, read⟩ := readable (parameter, values) inEntries
      cases tree with
      | none =>
          rw [(eq_none_iff_of_parameterFilter_eq_ok mapped read).1 rfl] at selected
          cases selected
      | some tree =>
          refine ⟨(parameter, tree), List.mem_filterMap.2 ⟨(parameter, values), ?_, ?_⟩, rfl⟩
          · exact (mem_sortBy _ _ _).2 inEntries
          · exact selection?_eq_some_iff.2 ⟨rfl, read⟩
  trees := by
    intro parameter tree member
    obtain ⟨⟨other, values⟩, inEntries, found⟩ := List.mem_filterMap.1 member
    obtain ⟨sameParameter, read⟩ := selection?_eq_some_iff.1 found
    dsimp only at sameParameter read
    subst sameParameter
    exact ⟨values, (mem_sortBy _ _ _).1 inEntries, read⟩

theorem exists_listing (distinctNames : compiler.catalog.DistinctNames) {nodes : List QueryNode}
    (compiled : compiler.filters parameters = .ok nodes) :
    ∃ listing, compiler.IsListing parameters listing ∧ nodes = listing.map Prod.snd := by
  refine ⟨_, isListing_of_readable distinctNames (readable_of_filters_eq_ok compiled), ?_⟩
  obtain ⟨listing, found, rfl⟩ := map_eq_ok_iff.1 compiled
  rw [((compiler.filtersOf_eq_ok_iff _ _).1 found).2]

/-! ## What filters depend on -/

/-- Whether an entry counts: its parameter has a field, and it has values. -/
def counts (compiler : SearchCompiler P) (entry : P × RawValues) : Bool :=
  (compiler.catalog.fieldFor entry.1).isSome && !entry.2.values.isEmpty

theorem parameterFilter_of_not_counts {entry : P × RawValues}
    (notCounts : compiler.counts entry = false) :
    compiler.parameterFilter entry.1 entry.2 = .ok none := by
  rw [counts, Bool.and_eq_false_iff, Bool.not_eq_false', List.isEmpty_iff] at notCounts
  rcases notCounts with unmapped | noValues
  · exact parameterFilter_of_unmapped unmapped entry.2
  · rw [parameterFilter, noValues]
    cases compiler.catalog.fieldFor entry.1 <;> rfl

theorem mem_filter_counts_of_selects
    (same : ∀ parameter, (compiler.catalog.fieldFor parameter).isSome = true →
      ∀ raw, parameters.Selects parameter raw ↔ others.Selects parameter raw)
    {entry : P × RawValues} (member : entry ∈ parameters.entries.filter compiler.counts) :
    entry ∈ others.entries.filter compiler.counts := by
  obtain ⟨parameter, values⟩ := entry
  obtain ⟨inEntries, doesCount⟩ := List.mem_filter.1 member
  refine List.mem_filter.2 ⟨?_, doesCount⟩
  rw [counts, Bool.and_eq_true, Bool.not_eq_true', ← Bool.not_eq_true, List.isEmpty_iff]
    at doesCount
  obtain ⟨mapped, someValues⟩ := doesCount
  obtain ⟨raw, selected⟩ := List.exists_mem_of_ne_nil values.values someValues
  obtain ⟨otherValues, inOthers, -⟩ :=
    (same parameter mapped raw).1 ((selects_iff_of_mem inEntries).2 selected)
  have sameValues : values = otherValues := by
    refine RawValues.eq_of_mem_iff fun raw => ?_
    rw [← selects_iff_of_mem inEntries, same parameter mapped raw, selects_iff_of_mem inOthers]
  rwa [sameValues]

/-- Filters that select the same values for each parameter with a field are compiled alike. -/
theorem filters_eq_of_selects (distinctNames : compiler.catalog.DistinctNames)
    (same : ∀ parameter, (compiler.catalog.fieldFor parameter).isSome = true →
      ∀ raw, parameters.Selects parameter raw ↔ others.Selects parameter raw) :
    compiler.filters parameters = compiler.filters others := by
  have samePerm : (parameters.entries.filter compiler.counts).Perm
      (others.entries.filter compiler.counts) := by
    refine (List.perm_ext_iff_of_nodup (parameters.nodup_entries.filter _)
      (others.nodup_entries.filter _)).2 fun entry => ⟨mem_filter_counts_of_selects same, ?_⟩
    exact mem_filter_counts_of_selects fun parameter mapped raw => (same parameter mapped raw).symm
  have onlyCounting (entries : List (P × RawValues)) :
      compiler.filtersOf entries = compiler.filtersOf (entries.filter compiler.counts) :=
    filtersOf_filter fun _ _ => parameterFilter_of_not_counts
  rw [filters, filters, onlyCounting, onlyCounting (sortBy _ others.entries)]
  congr 2
  refine filter_sortBy_eq_of_filter_perm samePerm
    fun first firstMember second secondMember firstCounts secondCounts sameName => ?_
  refine others.eq_of_key_eq firstMember secondMember (distinctNames _ _ ?_ ?_ sameName)
  · exact (Bool.and_eq_true_iff.1 firstCounts).1
  · exact (Bool.and_eq_true_iff.1 secondCounts).1

end SearchCompiler

/-! ## Requests stated step by step -/

/-- Whether a step of a request selects a raw value for a parameter. -/
def RequestStep.Adds (parameter : P) (raw : String) : RequestStep P → Prop
  | .parameter other value => parameter = other ∧ raw = value
  | .parameters other values => parameter = other ∧ raw ∈ values
  | _ => False

theorem selects_iff_find? {parameters : ParameterValues P} {parameter : P} {raw : String} :
    parameters.Selects parameter raw ↔
      raw ∈ ((parameters.find? parameter).getD .empty).values := by
  cases found : parameters.find? parameter with
  | none =>
      refine iff_of_false ?_ List.not_mem_nil
      rintro ⟨values, member, -⟩
      rw [(parameters.find?_eq_some_iff parameter values).2 member] at found
      cases found
  | some values =>
      have member := (parameters.find?_eq_some_iff parameter values).1 found
      exact selects_iff_of_mem member

theorem selects_addParameter_iff {request : SearchRequest P} {parameter other : P}
    {value raw : String} :
    (request.addParameter other value).parameters.Selects parameter raw ↔
      request.parameters.Selects parameter raw ∨ parameter = other ∧ raw = value := by
  rw [selects_iff_find?, selects_iff_find?]
  unfold SearchRequest.addParameter
  dsimp only
  by_cases same : parameter = other
  · subst same
    rw [Keyed.find?_insert_self, Option.getD_some, RawValues.mem_insert, or_comm]
    simp
  · rw [Keyed.find?_insert_of_ne _ same]
    simp [same]

theorem selects_apply_iff {request : SearchRequest P} {step : RequestStep P} {parameter : P}
    {raw : String} :
    (request.apply step).parameters.Selects parameter raw ↔
      request.parameters.Selects parameter raw ∨ step.Adds parameter raw := by
  cases step with
  | parameter other value => exact selects_addParameter_iff
  | parameters other values =>
      unfold SearchRequest.apply RequestStep.Adds
      dsimp only
      induction values generalizing request with
      | nil => simp
      | cons value values inductionHypothesis =>
          rw [List.foldl_cons, inductionHypothesis, selects_addParameter_iff, List.mem_cons,
            and_or_left, or_assoc]
  | _ => simp [SearchRequest.apply, RequestStep.Adds]

/-- The values that a request selects are those that its steps add, in whatever order. -/
theorem selects_foldl_apply_iff {request : SearchRequest P} {steps : List (RequestStep P)}
    {parameter : P} {raw : String} :
    (steps.foldl SearchRequest.apply request).parameters.Selects parameter raw ↔
      request.parameters.Selects parameter raw ∨ ∃ step ∈ steps, step.Adds parameter raw := by
  induction steps generalizing request with
  | nil => simp
  | cons step steps inductionHypothesis =>
      rw [List.foldl_cons, inductionHypothesis, selects_apply_iff, List.exists_mem_cons_iff,
        or_assoc]

namespace SearchCompiler

/-- **Filters compile as a whole or fail with one error.** If no two parameters with fields share a
name, filters compile exactly if each raw value of a parameter with a field is accepted. They then
give one tree for each such parameter with values, in order of the names. Otherwise the failure is
the refusal of the first raw value that is refused, by the names of the parameters and then by the
bytes of the values. Values of parameters without a field do not matter, nor does the order in which
a request is stated, and a free text that asks for everything drops the filters unread. -/
theorem filters_all_or_nothing {compiler : SearchCompiler P}
    (distinctNames : compiler.catalog.DistinctNames) (parameters : ParameterValues P) :
    ((∃ nodes, compiler.filters parameters = .ok nodes) ↔
      ∀ parameter field raw, compiler.IsRead parameters parameter field raw →
        compiler.Accepts parameter field raw) ∧
    (∀ nodes, compiler.filters parameters = .ok nodes →
      ∃ listing, compiler.IsListing parameters listing ∧ nodes = listing.map Prod.snd) ∧
    (∀ error, compiler.filters parameters = .error error ↔
      ∃ parameter field raw, compiler.FirstRefused parameters error parameter field raw) ∧
    (∀ others : ParameterValues P,
      (∀ parameter, (compiler.catalog.fieldFor parameter).isSome = true →
        ∀ raw, parameters.Selects parameter raw ↔ others.Selects parameter raw) →
      compiler.filters parameters = compiler.filters others) ∧
    (∀ (request : SearchRequest P) (steps others : List (RequestStep P)), steps.Perm others →
      compiler.filters (steps.foldl SearchRequest.apply request).parameters =
        compiler.filters (others.foldl SearchRequest.apply request).parameters) ∧
    ∀ freeText, trim freeText = compiler.settings.matchAllSentinel →
      compiler.query parameters (some freeText) = .ok none := by
  refine ⟨exists_filters_iff.trans readable_iff, fun nodes => exists_listing distinctNames,
    fun error => filters_eq_error_iff distinctNames,
    fun others => filters_eq_of_selects distinctNames, ?_, ?_⟩
  · intro request steps others reordered
    refine filters_eq_of_selects distinctNames fun parameter _ raw => ?_
    rw [selects_foldl_apply_iff, selects_foldl_apply_iff]
    simp only [reordered.mem_iff]
  · intro freeText isSentinel
    have matchAll : compiler.isMatchAll (some freeText) = true := by
      rw [isMatchAll, Option.map_some, isSentinel, beq_self_eq_true]
    rw [query, if_pos matchAll]

end SearchCompiler

namespace Observations

/-- Of two refused values that of the parameter with the smaller name is reported, though it was
added later. -/
theorem filters_all_or_nothing_refused :
    compiler.filters refused.request.parameters = .error (.value (.nothingToNegate "!")) ∧
      (∃ parameter field raw, compiler.FirstRefused refused.request.parameters
        (.value (.nothingToNegate "!")) parameter field raw) ∧
      compiler.query refused.request.parameters (some " * ") = .ok none := by
  have failed : compiler.filters refused.request.parameters =
      .error (.value (.nothingToNegate "!")) := by rfl
  obtain ⟨-, -, failsAsFirst, -, -, dropped⟩ :=
    SearchCompiler.filters_all_or_nothing distinctNames refused.request.parameters
  exact ⟨failed, (failsAsFirst _).1 failed, dropped " * " (by decide)⟩

end Observations

end FacetedSearch
