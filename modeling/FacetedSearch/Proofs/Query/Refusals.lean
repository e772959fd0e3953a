import FacetedSearch.Proofs.Outcome
import FacetedSearch.Search.Completion

/-!
Contract: whose doing it is that a request is refused.

Owns:
- `Blames`: every error of an outcome is the caller's doing, or none is, and what sequencing and
  traversals do to that;
- the same of everything that stands between a request and its compiled form: the reading of
  values, the normal form of shapes, filters, facet plans and the four kinds of compiled requests.

Does not own: the wording of refusals, and what happens once an engine is asked.
-/

namespace FacetedSearch

/-- Each error that an outcome may be is the caller's doing, or each one is not. -/
def Blames {α : Type} (caller : Bool) (outcome : Except SearchError α) : Prop :=
  ∀ error, outcome = .error error → error.isClientError = caller

section Outcomes

variable {α β : Type} {caller : Bool}

@[simp] theorem blames_ok (value : α) : Blames caller (.ok value) := by
  intro error failed
  cases failed

@[simp] theorem blames_error_iff (error : SearchError) :
    Blames caller (.error error : Except SearchError α) ↔ error.isClientError = caller := by
  constructor
  · intro blames
    exact blames error rfl
  · intro blamed other same
    cases same
    exact blamed

/-- An error that is passed on is blamed on the same side. -/
theorem Blames.passedOn {outcome : Except SearchError α} (blames : Blames caller outcome)
    {error : SearchError} (failed : outcome = .error error) :
    Blames caller (.error error : Except SearchError β) :=
  (blames_error_iff error).2 (blames error failed)

theorem Blames.map {outcome : Except SearchError α} (blames : Blames caller outcome)
    (f : α → β) : Blames caller (outcome.map f) := by
  intro error failed
  exact blames error (map_eq_error_iff.1 failed)

theorem Blames.bind {outcome : Except SearchError α} {next : α → Except SearchError β}
    (first : Blames caller outcome)
    (second : ∀ value, outcome = .ok value → Blames caller (next value)) :
    Blames caller (outcome.bind next) := by
  cases result : outcome with
  | error error => exact first.passedOn result
  | ok value => exact second value result

theorem Blames.mapM {step : α → Except SearchError β} {list : List α}
    (each : ∀ element ∈ list, Blames caller (step element)) : Blames caller (list.mapM step) := by
  intro error failed
  obtain ⟨element, member, fails⟩ := exists_error_of_mapM_eq_error failed
  exact each element member error fails

end Outcomes

/-! ## Values -/

theorem blames_malformedValue {α : Type} (raw expected : String) :
    Blames true (malformedValue raw expected : Except SearchError α) :=
  (blames_error_iff _).2 rfl

theorem blames_orMalformed {α : Type} (raw expected : String) (value : Option α) :
    Blames true (orMalformed raw expected value) := by
  cases value with
  | none => exact blames_malformedValue raw expected
  | some value => exact blames_ok value

theorem blames_readScalar (type : ValueType) (raw : String) :
    Blames true (readScalar type raw) := by
  cases type with
  | text => exact blames_ok _
  | date => exact (blames_orMalformed raw "date" _).map _
  | enumeration vocabulary => exact blames_orMalformed raw _ _
  | _ => exact blames_orMalformed raw _ _

namespace FilterSyntax

variable (filterSyntax : FilterSyntax)

theorem blames_readBound (type : ValueType) (day : Calendar.Period → Calendar.Date)
    (token : String) : Blames true (filterSyntax.readBound type day token) := by
  unfold readBound
  split
  · exact blames_ok none
  · split
    · exact (blames_orMalformed token "date" _).map _
    · exact (blames_readScalar type token).map some

theorem blames_readRange (type : ValueType) (raw lower upper : String) :
    Blames true (filterSyntax.readRange type raw lower upper) := by
  unfold readRange
  split
  · split
    · rename_i refused
      exact (filterSyntax.blames_readBound _ _ _).passedOn refused
    · exact (filterSyntax.blames_readBound type _ upper).map _
  · exact (blames_error_iff _).2 rfl

theorem blames_readCondition (type : ValueType) (raw : String) :
    Blames true (filterSyntax.readCondition type raw) := by
  unfold readCondition
  split
  · exact filterSyntax.blames_readRange type raw _ _
  · split
    · exact (blames_orMalformed raw "date" _).map _
    · exact (blames_readScalar type raw).map _

theorem blames_readSelection (type : ValueType) (raw : String) :
    Blames true (filterSyntax.readSelection type raw) := by
  unfold readSelection
  split
  · split
    · exact (blames_error_iff _).2 rfl
    · exact (filterSyntax.blames_readCondition type _).map _
  · exact (filterSyntax.blames_readCondition type raw).map _

end FilterSyntax

/-! ## Shapes -/

namespace Geometry

theorem blames_normalPolygon (polygon : Polygon) : Blames true (normalPolygon polygon) := by
  unfold normalPolygon
  split
  · exact (blames_error_iff _).2 rfl
  · apply Blames.mapM
    intro ring _
    show Blames true (if _ < leastRingSize then _ else _)
    split
    · exact (blames_error_iff _).2 rfl
    · exact blames_ok _

theorem blames_closedPolygons (polygons : List Polygon) :
    Blames true (closedPolygons polygons) := by
  unfold closedPolygons
  split
  · exact blames_ok ()
  · exact (blames_error_iff _).2 rfl

theorem blames_normalShape (shape : Shape) : Blames true (normalShape shape) := by
  cases shape with
  | point coordinate =>
      cases coordinate with
      | none => exact (blames_error_iff _).2 rfl
      | some coordinate => exact blames_ok _
  | polygon polygon =>
      apply (blames_closedPolygons [polygon]).bind
      intro _ _
      exact (blames_normalPolygon polygon).map _
  | multiPolygon polygons =>
      apply (blames_closedPolygons polygons).bind
      intro _ _
      exact (Blames.mapM fun polygon _ => blames_normalPolygon polygon).map _
  | _ => exact (blames_error_iff _).2 rfl

theorem blames_normalLinearRing (rest : List Char) : Blames true (normalLinearRing rest) := by
  unfold normalLinearRing
  split
  · split
    · exact (blames_error_iff _).2 rfl
    · exact blames_ok _
  · exact (blames_error_iff _).2 rfl

theorem blames_normalForm (text : String) : Blames true (normalForm text) := by
  apply Blames.map
  split
  · exact blames_normalLinearRing _
  · split
    · exact blames_normalShape _
    · exact (blames_error_iff _).2 rfl

end Geometry

/-! ## Requests -/

namespace SearchCompiler

variable {P : Type} [SearchParameter P] (compiler : SearchCompiler P)

theorem blames_readSelection (parameter : P) (field raw : String) :
    Blames true (compiler.readSelection parameter field raw) := by
  unfold readSelection spatialSelection
  split
  · split
    · exact (Geometry.blames_normalForm _).map _
    · exact (Geometry.blames_normalForm raw).map _
  · exact compiler.settings.filterSyntax.blames_readSelection _ raw

theorem blames_parameterFilter (parameter : P) (values : RawValues) :
    Blames true (compiler.parameterFilter parameter values) := by
  unfold parameterFilter
  split
  · exact blames_ok none
  · rename_i field _
    exact (Blames.mapM fun raw _ => compiler.blames_readSelection parameter field raw).map _

theorem blames_filtersOf (entries : List (P × RawValues)) :
    Blames true (compiler.filtersOf entries) := by
  induction entries with
  | nil => exact blames_ok []
  | cons entry rest inductionHypothesis =>
      rw [filtersOf]
      split
      · rename_i refused
        exact (compiler.blames_parameterFilter _ _).passedOn refused
      · exact inductionHypothesis
      · exact inductionHypothesis.map _

theorem blames_query (parameters : ParameterValues P) (freeText : Option String) :
    Blames true (compiler.query parameters freeText) := by
  unfold query
  split
  · exact blames_ok none
  · exact ((compiler.blames_filtersOf _).map _).map _

theorem blames_termsAggregation (request : FacetedSearchRequest P) (facet : P × String) :
    Blames true (compiler.termsAggregation request facet) := by
  apply Blames.map
  show Blames true (if _ > compiler.settings.maxFacetSize then _ else _)
  split
  · exact (blames_error_iff _).2 rfl
  · exact blames_ok _

theorem blames_facetPlan (request : FacetedSearchRequest P) :
    Blames true (compiler.facetPlan request) := by
  unfold facetPlan
  dsimp only
  split
  · exact blames_ok _
  · split
    · rename_i refused
      have tooLarge : Blames true
          ((compiler.mappedFacets request).mapM (compiler.termsAggregation request)) :=
        Blames.mapM fun facet _ => compiler.blames_termsAggregation request facet
      exact tooLarge.passedOn refused
    · split
      · exact blames_ok _
      · exact (compiler.blames_filtersOf _).map _

theorem blames_compileSearch (request : SearchRequest P) :
    Blames true (compiler.compileSearch request) :=
  (compiler.blames_query request.parameters request.freeText).map _

theorem blames_compileFaceted (request : FacetedSearchRequest P) :
    Blames true (compiler.compileFaceted request) := by
  unfold compileFaceted
  split
  · rename_i refused
    exact (compiler.blames_facetPlan request).passedOn refused
  · exact (compiler.blames_query _ _).map _

theorem blames_compileAutocomplete (request : SearchRequest P) (parameter : P) :
    Blames true (compiler.compileAutocomplete request parameter) := by
  unfold compileAutocomplete
  split
  · exact (compiler.blames_query request.parameters none).map _
  · exact blames_ok none

end SearchCompiler

end FacetedSearch
