import FacetedSearch.Proofs.Engine.Elasticsearch.Body
import FacetedSearch.Proofs.Facet.Split
import FacetedSearch.Proofs.Response.Facets

/-!
Contract: the parameters that plain aggregations are credited to.

Owns:
- `ResponseNormalizer.Credits`, an answered aggregation that becomes a facet of a parameter,
  whatever other aggregations are answered, and `credits_iff`, which finds this parameter;
- `credited_iff`: an aggregation of a plain plan is credited to the parameter that it was built for
  exactly if its field does not begin with the mark of inner aggregations, or the parameter has the
  rest of the field as well.

Bodies have the mark in front of inner names only, and answers lose it in front of all names.

Does not own: aggregations inside filters.
-/

namespace FacetedSearch

open Elasticsearch Json

variable {P : Type} [SearchParameter P]

/-! ## Facets -/

namespace ResponseNormalizer

variable {normalizer : ResponseNormalizer P} {request : FacetedSearchRequest P}

/-- Whether answered buckets under a name add the facet of a parameter, and nothing else, to the
facets of whatever else is answered. -/
def Credits (normalizer : ResponseNormalizer P) (request : FacetedSearchRequest P) (name : String)
    (parameter : P) : Prop :=
  ∀ buckets before after others, normalizer.facets request (before ++ after) = .ok others →
    ∃ found, normalizer.facets request (before ++ (name, .terms buckets) :: after) = .ok found ∧
      found.Perm (normalizer.facetOf request parameter buckets :: others)

/-- One more facet does not change the others. -/
theorem facetsOf_insert {aggregation : String × RawAggregation} {facet : Facet P}
    (made : normalizer.facet? request aggregation = .ok (some facet))
    {before after : List (String × RawAggregation)} {others : List (Facet P)}
    (found : normalizer.facetsOf request (before ++ after) = .ok others) :
    ∃ facets, normalizer.facetsOf request (before ++ aggregation :: after) = .ok facets ∧
      facets.Perm (facet :: others) := by
  induction before generalizing others with
  | nil =>
      refine ⟨facet :: others, ?_, .refl _⟩
      rw [List.nil_append, facetsOf, made]
      exact map_eq_ok_iff.2 ⟨others, found, rfl⟩
  | cons first rest inductionHypothesis =>
      rw [List.cons_append, facetsOf] at found ⊢
      cases outcome : normalizer.facet? request first with
      | error error =>
          rw [outcome] at found
          cases found
      | ok here =>
          rw [outcome] at found
          cases here with
          | none => exact inductionHypothesis found
          | some here =>
              obtain ⟨behind, foundBehind, rfl⟩ := map_eq_ok_iff.1 found
              obtain ⟨facets, foundFacets, perm⟩ := inductionHypothesis foundBehind
              exact ⟨here :: facets, map_eq_ok_iff.2 ⟨facets, foundFacets, rfl⟩,
                (perm.cons here).trans (.swap facet here behind)⟩

/-- Buckets are credited to the parameter of the field that their name stands for. -/
theorem credits_iff {name : String} {parameter : P} :
    normalizer.Credits request name parameter ↔
      normalizer.catalog.parameterFor (normalizer.fieldOf name) = some parameter := by
  constructor
  · intro credits
    obtain ⟨found, isFound, perm⟩ := credits [] [] [] [] rfl
    obtain ⟨unsorted, each, rfl⟩ := map_eq_ok_iff.1 isFound
    have member := (sortBy_perm _ unsorted).mem_iff.1 (perm.mem_iff.2 List.mem_cons_self)
    obtain ⟨aggregation, isOnly, made⟩ := exists_mem_of_facetsOf_eq_ok each member
    obtain rfl := List.mem_singleton.1 isOnly
    obtain ⟨credited, _, isParameter, -, same⟩ := facet?_eq_some_iff.1 made
    rw [isParameter]
    exact congrArg (fun facet => some facet.parameter) same
  · intro isParameter buckets before after others isOthers
    obtain ⟨facets, found, rfl⟩ := map_eq_ok_iff.1 isOthers
    have made : normalizer.facet? request (name, .terms buckets) =
        .ok (some (normalizer.facetOf request parameter buckets)) :=
      facet?_eq_some_iff.2 ⟨parameter, buckets, isParameter, rfl, rfl⟩
    obtain ⟨more, foundMore, perm⟩ := facetsOf_insert made found
    refine ⟨_, map_eq_ok_iff.2 ⟨more, foundMore, rfl⟩, ?_⟩
    exact (sortBy_perm _ more).trans (perm.trans ((sortBy_perm _ facets).symm.cons _))

end ResponseNormalizer

/-! ## Plans -/

/-- Whether each field of a parameter leads back to that parameter. -/
def FieldCatalog.LeadsBack (catalog : FieldCatalog P) : Prop :=
  ∀ parameter field, catalog.fieldFor parameter = some field →
    catalog.parameterFor field = some parameter

namespace SearchCompiler

variable {compiler : SearchCompiler P} {request : FacetedSearchRequest P}
  {search : CompiledSearch P} {list : List (TermsAggregation P)}

theorem terms_of_simple (compiled : compiler.compileFaceted request = .ok search)
    (plan : search.aggregations = .simple list) :
    (compiler.mappedFacets request).mapM (compiler.termsAggregation request) = .ok list := by
  obtain ⟨found, planned, -, -, same⟩ := of_compileFaceted_eq_ok compiled
  have built := terms_of_planned planned
  rw [← same, plan] at built
  exact built

theorem fieldFor_of_mem_terms (compiled : compiler.compileFaceted request = .ok search)
    (plan : search.aggregations = .simple list) {terms : TermsAggregation P}
    (member : terms ∈ list) : compiler.catalog.fieldFor terms.parameter = some terms.field :=
  ((compiler.mem_mappedFacets _ _).1 (of_mem_terms (terms_of_simple compiled plan) member).1).2

/-- Under a catalog whose fields lead back to their parameters, a body asks for each aggregation of
a plain plan under the name of its field. -/
theorem asks_of_mem_terms
    (leadsBack : compiler.catalog.LeadsBack)
    (compiled : compiler.compileFaceted request = .ok search)
    (plan : search.aggregations = .simple list) {terms : TermsAggregation P}
    (member : terms ∈ list) :
    Asks (searchBody compiler.settings search) terms.field
      (Elasticsearch.termsAggregation terms) := by
  apply asks_of_mem
  · rw [plan]
    exact List.mem_map.2 ⟨terms, member, rfl⟩
  · rw [plan]
    intro other isNamed sameName
    obtain ⟨otherTerms, isOther, rfl⟩ := List.mem_map.1 isNamed
    have field := leadsBack _ _ (fieldFor_of_mem_terms compiled plan member)
    have otherField := leadsBack _ _ (fieldFor_of_mem_terms compiled plan isOther)
    have sameField : otherTerms.field = terms.field := sameName
    rw [sameField, field, Option.some.injEq] at otherField
    rw [terms_eq_of_parameter_eq (terms_of_simple compiled plan) isOther member otherField.symm]

/-- **Aggregations are credited to their parameters unless their fields begin with the mark.** The
body of a plain plan asks for each aggregation under the name of its field. What is answered under
this name becomes the facet of the parameter that the aggregation was built for, whatever else is
answered, exactly if the field does not begin with the mark, or the rest of it belongs to that
parameter as well. It becomes the facet of another parameter exactly if the rest belongs to that
one. -/
theorem credited_iff
    (leadsBack : compiler.catalog.LeadsBack)
    (compiled : compiler.compileFaceted request = .ok search)
    (plan : search.aggregations = .simple list) {terms : TermsAggregation P}
    (member : terms ∈ list) :
    Asks (searchBody compiler.settings search) terms.field
      (Elasticsearch.termsAggregation terms) ∧
      (compiler.normalizer.Credits request terms.field terms.parameter ↔
        ∀ rest, terms.field = compiler.settings.filteredAggregationMark ++ rest →
          compiler.catalog.parameterFor rest = some terms.parameter) ∧
      ∀ other ≠ terms.parameter, (compiler.normalizer.Credits request terms.field other ↔
        ∃ rest, terms.field = compiler.settings.filteredAggregationMark ++ rest ∧
          compiler.catalog.parameterFor rest = some other) := by
  have own := leadsBack _ _ (fieldFor_of_mem_terms compiled plan member)
  refine ⟨asks_of_mem_terms leadsBack compiled plan member, ?_⟩
  simp only [ResponseNormalizer.credits_iff]
  by_cases marked : ∃ rest, terms.field = compiler.settings.filteredAggregationMark ++ rest
  · obtain ⟨rest, isMarked⟩ := marked
    have fieldOf : compiler.normalizer.fieldOf terms.field = rest := by
      rw [isMarked]
      exact compiler.normalizer.fieldOf_mark_append rest
    have isRest (other : String) :
        terms.field = compiler.settings.filteredAggregationMark ++ other ↔ other = rest := by
      rw [isMarked, eq_comm]
      exact String.append_right_inj _
    simp only [fieldOf, isRest, forall_eq, exists_eq_left]
    exact ⟨.rfl, fun _ _ => .rfl⟩
  · have fieldOf : compiler.normalizer.fieldOf terms.field = terms.field :=
      ResponseNormalizer.fieldOf_eq_of_not_append fun rest isMarked => marked ⟨rest, isMarked⟩
    rw [fieldOf]
    constructor
    · exact iff_of_true own fun rest isMarked => absurd ⟨rest, isMarked⟩ marked
    · intro other different
      refine iff_of_false (fun credited => ?_) fun ⟨rest, isMarked, _⟩ => marked ⟨rest, isMarked⟩
      exact different (Option.some.inj (credited.symm.trans own))

end SearchCompiler

/-! ## Observations of species -/

namespace Observations

/-- The request with its filters in the main query. -/
def plainRequest : FacetedSearchRequest DeclaredParameter :=
  { request with multiSelectFacets := false }

theorem credited_iff_plain :
    ∃ search list, compiler.compileFaceted plainRequest = .ok search ∧
      search.aggregations = .simple list ∧ ∃ terms ∈ list, terms.parameter = year ∧
        terms.field = "year" ∧ compiler.normalizer.Credits plainRequest "year" year ∧
          ¬ compiler.normalizer.Credits plainRequest "year" country := by
  have leadsBack : compiler.catalog.LeadsBack := by
    intro parameter field mapped
    have apart : ∀ facet ∈ [(country, "country"), (year, "year"), (kingdom, "kingdom")],
        compiler.catalog.parameterFor facet.2 = some facet.1 := by
      decide +kernel
    exact apart _ (mem_of_fieldFor mapped)
  obtain ⟨search, onCountry, onYear, compiled, plan, isYear⟩ : ∃ search onCountry onYear,
      compiler.compileFaceted plainRequest = .ok search ∧
        search.aggregations = .simple [onCountry, onYear] ∧
          onYear = ⟨year, "year", 10, 0, 10, none⟩ :=
    ⟨_, _, _, rfl, rfl, rfl⟩
  subst isYear
  obtain ⟨-, own, others⟩ := SearchCompiler.credited_iff leadsBack compiled plan
    (List.mem_cons_of_mem _ List.mem_cons_self)
  have unmarked (rest : String) :
      "year" ≠ compiler.settings.filteredAggregationMark ++ rest := by
    intro same
    have sameChars := congrArg String.toList same
    rw [String.toList_append] at sameChars
    exact absurd (List.cons.inj sameChars).1 (by decide)
  refine ⟨search, _, compiled, plan, _, List.mem_cons_of_mem _ List.mem_cons_self, rfl, rfl, ?_, ?_⟩
  · exact own.2 fun rest isMarked => absurd isMarked (unmarked rest)
  · intro credited
    obtain ⟨rest, isMarked, -⟩ := (others country (by decide)).1 credited
    exact unmarked rest isMarked

/-- Fields of which one is the other with the mark in front. -/
def misnamed : SearchCompiler DeclaredParameter where
  catalog :=
    (CatalogTable.ofDeclarations [.field country "filtered_year", .field year "year"]).catalog
  settings := {}

def countries : FacetedSearchRequest DeclaredParameter where
  request := {}
  facets := [country]

/-- The buckets of a field whose name begins with the mark become the facet of another field. -/
theorem credited_to_another :
    misnamed.settings.validated = .ok misnamed.settings ∧
      misnamed.catalog.LeadsBack ∧
      ∃ search onCountry, misnamed.compileFaceted countries = .ok search ∧
        search.aggregations = .simple [onCountry] ∧ onCountry.parameter = country ∧
          misnamed.normalizer.facets countries
              [(onCountry.field, .terms [⟨.text "DK", 4⟩, ⟨.text "NO", 1⟩])] =
            .ok [⟨year, [⟨"DK", 4⟩, ⟨"NO", 1⟩]⟩] := by
  refine ⟨by decide +kernel, fun parameter field mapped => ?_, _, _, rfl, rfl, rfl, ?_⟩
  · have fields : (parameter, field) ∈ [(country, "filtered_year"), (year, "year")] :=
      (Keyed.find?_eq_some_iff _ _ _).1 mapped
    have apart : ∀ facet ∈ [(country, "filtered_year"), (year, "year")],
        misnamed.catalog.parameterFor facet.2 = some facet.1 := by
      decide +kernel
    exact apart _ fields
  · decide +kernel

end Observations

end FacetedSearch
