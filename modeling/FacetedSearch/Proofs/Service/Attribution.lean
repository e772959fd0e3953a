import FacetedSearch.Proofs.Query.Refusals
import FacetedSearch.Proofs.Search.Ceilings
import FacetedSearch.Service

/-!
Contract: what a service asks its backend, and whom it blames for what goes wrong.

Owns:
- `Conduct` and its relation `Governs`: a call is refused as the caller's doing, has nothing to ask
  for, or asks every backend for the same and reads one reply;
- `Attributed`, what follows for the requests and the errors of such a call;
- `Reports`, an answer that repeats the page of a compiled request and maps its hits in order;
- `calls_attributed`: the four calls of a service are attributed, its searches report what the
  backend was asked, and a call without a backend gives no results.

Does not own: what is made of aggregations and spelling suggestions.
-/

namespace FacetedSearch

variable {P : Type}

/-! ## Replies -/

/-- No error of a reply is the caller's doing: it is late, or a failure of the backend. -/
theorem Reply.blames_within {A : Type} (limit : Duration) (reply : Reply A) :
    Blames false (reply.within limit) := by
  unfold within
  split
  · exact (blames_error_iff _).2 rfl
  · split
    · exact blames_ok _
    · exact (blames_error_iff _).2 rfl

theorem Reply.outcome_of_within {A : Type} {limit : Duration} {reply : Reply A} {answer : A}
    (inTime : reply.within limit = .ok answer) : reply.outcome = .ok answer := by
  unfold within at inTime
  split at inTime
  · cases inTime
  · split at inTime
    · rename_i found
      cases inTime
      exact found
    · cases inTime

/-! ## Calls -/

/-- What a call consists of. -/
structure Conduct (P C A R : Type) where
  /-- What a backend does when it is called. -/
  operation : SearchBackend P → C → Reply A
  /-- The time that a backend has. -/
  limit : Duration
  /-- What is made of the answer to a request. -/
  read : A → Except SearchError R
  /-- The requests that a backend may be asked. -/
  Compiled : C → Prop
  /-- The results of a call that has nothing to ask for. -/
  Idle : R → Prop

/-- How a call may go, whatever backend there is. -/
inductive Conduct.Governs {C A R : Type} (conduct : Conduct P C A R) :
    (SearchBackend P → Exchange C R) → Prop where
  | refused {error : SearchError} (byCaller : error.isClientError = true) :
      Governs conduct fun _ => ⟨none, .error error⟩
  | idle {result : R} (nothing : conduct.Idle result) : Governs conduct fun _ => ⟨none, .ok result⟩
  | asked {compiled : C} (compiles : conduct.Compiled compiled) :
      Governs conduct fun backend =>
        ⟨some compiled,
          ((conduct.operation backend compiled).within conduct.limit).bind conduct.read⟩

/-- What is asked and who is blamed in a call, as it goes with each backend. -/
structure Attributed {C A R : Type} (operation : SearchBackend P → C → Reply A)
    (call : SearchBackend P → Exchange C R) : Prop where
  /-- Whether a backend is asked, and for what, does not depend on the backend. -/
  sameRequest : ∀ backend other, (call other).asked = (call backend).asked
  /-- Nothing of a backend matters but its one reply to the request that it is asked, if it is. -/
  oneReply : ∀ backend other,
    (∀ compiled, (call backend).asked = some compiled →
      operation other compiled = operation backend compiled) →
    call other = call backend
  /-- An error is the caller's doing exactly if no backend was asked. -/
  client_iff : ∀ backend error, (call backend).result = .error error →
    (error.isClientError = true ↔ (call backend).asked = none)

namespace Conduct.Governs

variable {C A R : Type} {conduct : Conduct P C A R} {call : SearchBackend P → Exchange C R}

theorem attributed (governs : conduct.Governs call)
    (readsBlame : ∀ answer, Blames false (conduct.read answer)) :
    Attributed conduct.operation call := by
  cases governs with
  | @refused error byCaller =>
      refine ⟨fun _ _ => rfl, fun _ _ _ => rfl, ?_⟩
      intro backend other failed
      cases failed
      exact iff_of_true byCaller rfl
  | idle nothing =>
      refine ⟨fun _ _ => rfl, fun _ _ _ => rfl, ?_⟩
      intro backend error failed
      cases failed
  | @asked compiled compiles =>
      refine ⟨fun _ _ => rfl, ?_, ?_⟩
      · intro backend other sameReply
        show Exchange.mk _ _ = Exchange.mk _ _
        rw [sameReply compiled rfl]
      · intro backend error failed
        have blamed : Blames false
            (((conduct.operation backend compiled).within conduct.limit).bind conduct.read) :=
          (Reply.blames_within _ _).bind fun answer _ => readsBlame answer
        have notByCaller : error.isClientError = false := blamed error failed
        simp [notByCaller]

theorem idle_of_unasked (governs : conduct.Governs call) {backend : SearchBackend P} {result : R}
    (unasked : (call backend).asked = none) (succeeds : (call backend).result = .ok result) :
    conduct.Idle result := by
  cases governs with
  | refused byCaller => cases succeeds
  | idle nothing =>
      cases succeeds
      exact nothing
  | asked compiles => cases unasked

/-- A call that succeeds has nothing to ask for, or has read the backend's answer. -/
theorem of_result_eq_ok (governs : conduct.Governs call) {backend : SearchBackend P} {result : R}
    (succeeds : (call backend).result = .ok result) :
    conduct.Idle result ∨
      ∃ compiled answer, (call backend).asked = some compiled ∧ conduct.Compiled compiled ∧
        (conduct.operation backend compiled).outcome = .ok answer ∧
        conduct.read answer = .ok result := by
  cases governs with
  | refused byCaller => cases succeeds
  | idle nothing =>
      cases succeeds
      exact .inl nothing
  | @asked compiled compiles =>
      right
      cases replied : (conduct.operation backend compiled).within conduct.limit with
      | error error =>
          simp only [replied] at succeeds
          cases succeeds
      | ok answer =>
          simp only [replied] at succeeds
          exact ⟨compiled, answer, rfl, compiles, Reply.outcome_of_within replied, succeeds⟩

end Conduct.Governs

variable [SearchParameter P]

/-! ## Answers -/

namespace ResponseNormalizer

variable {T : Type} (normalizer : ResponseNormalizer P)

theorem blames_buckets (field : String) (aggregation : RawAggregation) :
    Blames false (normalizer.buckets field aggregation) := by
  cases aggregation with
  | terms buckets => exact blames_ok buckets
  | filter count inner =>
      unfold buckets
      dsimp only
      split
      · exact (blames_error_iff _).2 rfl
      · exact blames_ok _
      · exact (blames_error_iff _).2 rfl

theorem blames_facet? (request : FacetedSearchRequest P)
    (aggregation : String × RawAggregation) :
    Blames false (normalizer.facet? request aggregation) := by
  unfold facet?
  dsimp only
  split
  · exact blames_ok none
  · exact (normalizer.blames_buckets _ aggregation.2).map _

theorem blames_facetsOf (request : FacetedSearchRequest P)
    (aggregations : List (String × RawAggregation)) :
    Blames false (normalizer.facetsOf request aggregations) := by
  induction aggregations with
  | nil => exact blames_ok []
  | cons aggregation rest inductionHypothesis =>
      rw [facetsOf]
      split
      · rename_i failed
        exact (normalizer.blames_facet? request aggregation).passedOn failed
      · exact inductionHypothesis
      · exact inductionHypothesis.map _

theorem blames_normalizeFaceted (request : FacetedSearchRequest P) (mapper : Hit → T)
    (raw : RawResult) : Blames false (normalizer.normalizeFaceted request mapper raw) :=
  ((normalizer.blames_facetsOf request raw.aggregations).map _).map _

end ResponseNormalizer

/-! ## The calls of a service -/

/-- An answer that repeats the page of a compiled request and has one result for each hit of the
backend, in its order. -/
structure UniformResponse.Reports {T : Type} (response : UniformResponse T P)
    (compiled : CompiledSearch P) (raw : RawResult) (highlight : Bool) (mapper : Hit → T) :
    Prop where
  offset : response.offset = compiled.offset
  limit : response.limit = compiled.size
  results : response.results = raw.hits.map fun hit =>
    mapper (if highlight then hit else { hit with highlight := [] })

/-- A parameter that has no field, or none with the beginnings of its values. -/
def SearchCompiler.LacksField (compiler : SearchCompiler P) (parameter : P) : Prop :=
  compiler.catalog.fieldFor parameter = none ∨
    compiler.catalog.autocompleteFieldFor parameter compiler.settings.autocompleteSuffix = none

/-- Each parameter with a field has one with the beginnings of its values. -/
def FieldCatalog.Completes (catalog : FieldCatalog P) : Prop :=
  ∀ parameter field suffix, catalog.fieldFor parameter = some field →
    catalog.autocompleteFieldFor parameter suffix ≠ none

theorem CatalogTable.completes_bareCatalog (table : CatalogTable P) :
    table.bareCatalog.Completes := by
  intro parameter field suffix mapped
  show (table.bareCatalog.fieldFor parameter).map (· ++ suffix) ≠ none
  simp [mapped]

theorem CatalogTable.completes_catalog (table : CatalogTable P) : table.catalog.Completes := by
  intro parameter field suffix mapped
  cases chosen : table.autocompleteFields.find? parameter with
  | some other => simp [catalog, chosen]
  | none =>
      have completed := table.completes_bareCatalog parameter field
        (table.autocompleteSuffix.getD suffix) mapped
      simpa [catalog, chosen] using completed

theorem SearchCompiler.lacksField_iff_of_completes {compiler : SearchCompiler P}
    (completes : compiler.catalog.Completes) (parameter : P) :
    compiler.LacksField parameter ↔ compiler.catalog.fieldFor parameter = none := by
  constructor
  · intro lacks
    rcases lacks with noField | noBeginnings
    · exact noField
    · cases mapped : compiler.catalog.fieldFor parameter with
      | none => rfl
      | some field => exact absurd noBeginnings (completes parameter field _ mapped)
  · exact .inl

theorem SearchCompiler.lacksField_of_compileAutocomplete {compiler : SearchCompiler P}
    {request : SearchRequest P} {parameter : P}
    (idle : compiler.compileAutocomplete request parameter = .ok none) :
    compiler.LacksField parameter := by
  cases mapped : compiler.catalog.fieldFor parameter with
  | none => exact .inl mapped
  | some wholeField =>
      cases completed : compiler.catalog.autocompleteFieldFor parameter
          compiler.settings.autocompleteSuffix with
      | none => exact .inr completed
      | some field =>
          simp only [compileAutocomplete, mapped, completed] at idle
          obtain ⟨filter, -, asked⟩ := map_eq_ok_iff.1 idle
          cases asked

namespace SearchService

variable {T : Type} (service : SearchService P)

/-- The service with another backend. -/
def withBackend (backend : SearchBackend P) : SearchService P :=
  { service with backend := backend }

/-- A search has something to ask for unless its request is refused. -/
def searchConduct (request : SearchRequest P) (mapper : Hit → T) :
    Conduct P (CompiledSearch P) RawResult (UniformResponse T P) where
  operation := SearchBackend.search
  limit := service.compiler.settings.executionTimeout
  read := fun raw => .ok (service.normalizer.normalize request mapper raw)
  Compiled := fun compiled => service.compiler.compileSearch request = .ok compiled
  Idle := fun _ => False

def facetedConduct (request : FacetedSearchRequest P) (mapper : Hit → T) :
    Conduct P (CompiledSearch P) RawResult (UniformResponse T P) where
  operation := SearchBackend.search
  limit := service.compiler.settings.executionTimeout
  read := service.normalizer.normalizeFaceted request mapper
  Compiled := fun compiled => service.compiler.compileFaceted request = .ok compiled
  Idle := fun _ => False

def autocompleteConduct (request : SearchRequest P) (parameter : P) (mapper : Hit → T) :
    Conduct P CompiledAutocomplete RawResult (List T) where
  operation := SearchBackend.autocomplete
  limit := service.compiler.settings.executionTimeout
  read := fun raw => .ok (mapHits false mapper raw.hits)
  Compiled := fun compiled =>
    service.compiler.compileAutocomplete request parameter = .ok (some compiled)
  Idle := fun results => results = [] ∧ service.compiler.LacksField parameter

def suggestConduct (beginning : String) (parameter : P) (limit : Option UInt64)
    (mapper : Hit → T) : Conduct P CompiledSuggest (List Hit) (List T) where
  operation := SearchBackend.suggest
  limit := service.compiler.settings.executionTimeout
  read := fun hits => .ok (mapHits false mapper hits)
  Compiled := fun compiled =>
    service.compiler.compileSuggest beginning parameter limit = some compiled
  Idle := fun results => results = [] ∧ service.compiler.catalog.fieldFor parameter = none

theorem governs_search (request : SearchRequest P) (mapper : Hit → T) :
    (service.searchConduct request mapper).Governs fun backend =>
      (service.withBackend backend).search request mapper := by
  cases compiles : service.compiler.compileSearch request with
  | error error =>
      simp only [search, withBackend, compiles]
      exact .refused (service.compiler.blames_compileSearch request error compiles)
  | ok compiled =>
      simp only [search, withBackend, await, compiles, map_eq_bind]
      exact .asked compiles

theorem governs_faceted (request : FacetedSearchRequest P) (mapper : Hit → T) :
    (service.facetedConduct request mapper).Governs fun backend =>
      (service.withBackend backend).facetedSearch request mapper := by
  cases compiles : service.compiler.compileFaceted request with
  | error error =>
      simp only [facetedSearch, withBackend, compiles]
      exact .refused (service.compiler.blames_compileFaceted request error compiles)
  | ok compiled =>
      simp only [facetedSearch, withBackend, await, compiles]
      exact .asked compiles

theorem governs_autocomplete (request : SearchRequest P) (parameter : P) (mapper : Hit → T) :
    (service.autocompleteConduct request parameter mapper).Governs fun backend =>
      (service.withBackend backend).autocomplete request parameter mapper := by
  cases compiles : service.compiler.compileAutocomplete request parameter with
  | error error =>
      simp only [autocomplete, withBackend, compiles]
      exact .refused
        (service.compiler.blames_compileAutocomplete request parameter error compiles)
  | ok compiled =>
      cases compiled with
      | none =>
          simp only [autocomplete, withBackend, compiles]
          exact .idle ⟨rfl, SearchCompiler.lacksField_of_compileAutocomplete compiles⟩
      | some compiled =>
          simp only [autocomplete, withBackend, await, compiles, map_eq_bind]
          exact .asked compiles

theorem governs_suggest (beginning : String) (parameter : P) (limit : Option UInt64)
    (mapper : Hit → T) :
    (service.suggestConduct beginning parameter limit mapper).Governs fun backend =>
      (service.withBackend backend).suggest beginning parameter limit mapper := by
  cases compiles : service.compiler.compileSuggest beginning parameter limit with
  | none =>
      simp only [suggest, withBackend, compiles]
      exact .idle ⟨rfl, Option.map_eq_none_iff.1 compiles⟩
  | some compiled =>
      simp only [suggest, withBackend, await, compiles, map_eq_bind]
      exact .asked compiles

/-! ## What searches report -/

theorem reports_of_search {request : SearchRequest P} {mapper : Hit → T}
    {response : UniformResponse T P}
    (succeeds : (service.search request mapper).result = .ok response) :
    ∃ compiled raw, (service.search request mapper).asked = some compiled ∧
      (service.backend.search compiled).outcome = .ok raw ∧
      response.Reports compiled raw request.highlight mapper := by
  rcases (service.governs_search request mapper).of_result_eq_ok succeeds with
    never | ⟨compiled, raw, asked, compiles, answered, normalized⟩
  · exact never.elim
  · obtain ⟨query, -, rfl⟩ := map_eq_ok_iff.1 compiles
    cases normalized
    exact ⟨_, raw, asked, answered, rfl, rfl, rfl⟩

theorem reports_of_faceted {request : FacetedSearchRequest P} {mapper : Hit → T}
    {response : UniformResponse T P}
    (succeeds : (service.facetedSearch request mapper).result = .ok response) :
    ∃ compiled raw, (service.facetedSearch request mapper).asked = some compiled ∧
      (service.backend.search compiled).outcome = .ok raw ∧
      response.Reports compiled raw request.request.highlight mapper := by
  rcases (service.governs_faceted request mapper).of_result_eq_ok succeeds with
    never | ⟨compiled, raw, asked, compiles, answered, normalized⟩
  · exact never.elim
  · obtain ⟨facets, -, rfl⟩ := map_eq_ok_iff.1 normalized
    obtain ⟨offset, size⟩ := SearchCompiler.page_of_compileFaceted compiles
    exact ⟨compiled, raw, asked, answered, offset.symm, size.symm, rfl⟩

/-- **Errors are attributed to the right side.** In each of the four calls of a service, whatever
its backend does, the backend is asked at most once, and an error is the caller's doing exactly if
the backend was not asked. A search whose backend was not asked never succeeds; the other calls then
give no results, for a parameter without a field. A search that succeeds repeats the page of the
compiled request that the backend was asked, and has one result for each of the backend's hits, in
their order. -/
theorem calls_attributed (mapper : Hit → T) :
    (∀ request,
      Attributed SearchBackend.search
          (fun backend => (service.withBackend backend).search request mapper) ∧
        ∀ response, (service.search request mapper).result = .ok response →
          ∃ compiled raw, (service.search request mapper).asked = some compiled ∧
            (service.backend.search compiled).outcome = .ok raw ∧
            response.Reports compiled raw request.highlight mapper) ∧
    (∀ request,
      Attributed SearchBackend.search
          (fun backend => (service.withBackend backend).facetedSearch request mapper) ∧
        ∀ response, (service.facetedSearch request mapper).result = .ok response →
          ∃ compiled raw, (service.facetedSearch request mapper).asked = some compiled ∧
            (service.backend.search compiled).outcome = .ok raw ∧
            response.Reports compiled raw request.request.highlight mapper) ∧
    (∀ request parameter,
      Attributed SearchBackend.autocomplete
          (fun backend => (service.withBackend backend).autocomplete request parameter mapper) ∧
        ∀ results, (service.autocomplete request parameter mapper).asked = none →
          (service.autocomplete request parameter mapper).result = .ok results →
            results = [] ∧ service.compiler.LacksField parameter) ∧
    (∀ beginning parameter limit,
      Attributed SearchBackend.suggest
          (fun backend => (service.withBackend backend).suggest beginning parameter limit mapper) ∧
        ∀ results, (service.suggest beginning parameter limit mapper).asked = none →
          (service.suggest beginning parameter limit mapper).result = .ok results →
            results = [] ∧ service.compiler.catalog.fieldFor parameter = none) ∧
    (service.compiler.catalog.Completes → ∀ parameter,
      (service.compiler.LacksField parameter ↔
        service.compiler.catalog.fieldFor parameter = none)) := by
  refine ⟨?_, ?_, ?_, ?_, ?_⟩
  · intro request
    refine ⟨(service.governs_search request mapper).attributed ?_, ?_⟩
    · intro raw
      exact blames_ok _
    · intro response succeeds
      exact service.reports_of_search succeeds
  · intro request
    refine ⟨(service.governs_faceted request mapper).attributed ?_, ?_⟩
    · intro raw
      exact service.normalizer.blames_normalizeFaceted request mapper raw
    · intro response succeeds
      exact service.reports_of_faceted succeeds
  · intro request parameter
    refine ⟨(service.governs_autocomplete request parameter mapper).attributed ?_, ?_⟩
    · intro raw
      exact blames_ok _
    · intro results unasked succeeds
      exact (service.governs_autocomplete request parameter mapper).idle_of_unasked unasked succeeds
  · intro beginning parameter limit
    refine ⟨(service.governs_suggest beginning parameter limit mapper).attributed ?_, ?_⟩
    · intro hits
      exact blames_ok _
    · intro results unasked succeeds
      exact (service.governs_suggest beginning parameter limit mapper).idle_of_unasked unasked
        succeeds
  · intro completes parameter
    exact SearchCompiler.lacksField_iff_of_completes completes parameter

end SearchService

/-! ## Observations of species -/

namespace Observations

/-- An engine that finds two documents, and has no completions in time. -/
def engine : SearchBackend DeclaredParameter where
  search := fun _ => ⟨⟨5⟩, .ok { total := 2, hits := [{ id := "1" }, { id := "2" }] }⟩
  suggest := fun _ => ⟨⟨30000000001⟩, .ok []⟩

def service : SearchService DeclaredParameter :=
  ⟨compiler, engine⟩

/-- A request with a year that is not a number. -/
def unreadableRequest : SearchRequest DeclaredParameter where
  parameters := .ofEntries [(year, .ofList ["once"])]

theorem calls_attributed_pumas :
    SearchService.create compiler.catalog {} engine = .ok service ∧
      (∃ response, (service.facetedSearch { request with facetsOnly := true } Hit.id).result =
          .ok response ∧ response.limit = 0 ∧ response.results = ["1", "2"] ∧
        ∃ compiled, (service.facetedSearch { request with facetsOnly := true } Hit.id).asked =
          some compiled ∧ response.limit = compiled.size) ∧
      (∃ error, (service.search unreadableRequest Hit.id).result = .error error ∧
        error.isClientError = true) ∧
      (∃ error, (service.suggest "pu" country none Hit.id).result = .error error ∧
        ¬ error.isClientError = true) ∧
      ∃ results, (service.autocomplete {} collector Hit.id).result = .ok results ∧
        results = [] ∧ service.compiler.catalog.fieldFor collector = none := by
  obtain ⟨ofSearch, ofFaceted, ofAutocomplete, ofSuggest, lacksField_iff⟩ :=
    service.calls_attributed Hit.id
  refine ⟨rfl, ?_, ?_, ?_, ?_⟩
  · have answered : (service.facetedSearch { request with facetsOnly := true } Hit.id).result.map
        (fun response => (response.limit, response.results)) = .ok (0, ["1", "2"]) := rfl
    obtain ⟨response, succeeds, same⟩ := map_eq_ok_iff.1 answered
    obtain ⟨noHits, found⟩ := Prod.mk.inj same
    obtain ⟨compiled, raw, asked, -, reports⟩ := (ofFaceted _).2 response succeeds
    exact ⟨response, succeeds, noHits, found, compiled, asked, reports.limit⟩
  · refine ⟨_, rfl, ?_⟩
    exact ((ofSearch unreadableRequest).1.client_iff engine _ rfl).2 rfl
  · refine ⟨_, rfl, ?_⟩
    intro byCaller
    have unasked := ((ofSuggest "pu" country none).1.client_iff engine _ rfl).1 byCaller
    cases unasked
  · obtain ⟨noResults, lacksField⟩ := (ofAutocomplete {} collector).2 _ rfl rfl
    exact ⟨_, rfl, noResults,
      (lacksField_iff (CatalogTable.completes_catalog _) collector).1 lacksField⟩

end Observations

end FacetedSearch
