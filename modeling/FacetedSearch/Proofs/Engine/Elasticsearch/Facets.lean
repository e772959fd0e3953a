import FacetedSearch.Proofs.Engine.Elasticsearch.Answer
import FacetedSearch.Proofs.Engine.Elasticsearch.Body
import FacetedSearch.Proofs.Facet.Split
import FacetedSearch.Proofs.Json.Tokens
import FacetedSearch.Proofs.Response.Facets

/-!
Contract: the way of a facet through a body, its answer and the uniform response.

Owns:
- `SearchCompiler.NamesApart`, the names under which every facet is found again;
- `SearchCompiler.answeredFacet`, a page of the buckets that were answered for a facet;
- `compileFaceted_facets`: what is answered to the body of a search for facets are the facets of
  the request.

Does not own: which documents an engine counts.
-/

namespace FacetedSearch

open Elasticsearch Json

variable {P : Type} [SearchParameter P]

/-! ## Names -/

/-- Each parameter is the parameter of its field, and neither the names of fields nor those with
the mark in front are taken for something else in an answer. -/
structure SearchCompiler.NamesApart (compiler : SearchCompiler P) : Prop where
  inverse : ∀ parameter field, compiler.catalog.fieldFor parameter = some field →
    compiler.catalog.parameterFor field = some parameter
  unmarked : ∀ parameter field, compiler.catalog.fieldFor parameter = some field →
    ¬ compiler.settings.filteredAggregationMark.toList <+: field.toList
  notBuckets : ∀ parameter field, compiler.catalog.fieldFor parameter = some field →
    compiler.settings.filteredAggregationMark ++ field ≠ "buckets"

namespace SearchCompiler

/-- A facet with its field, as a page of the buckets that are answered for the field. -/
def answeredFacet (compiler : SearchCompiler P) (request : FacetedSearchRequest P)
    (bucketsOf : String → List Bucket) (facet : P × String) : Facet P :=
  let offset := request.facetOffsetFor facet.1
  let limit := request.facetLimitFor facet.1 compiler.settings.defaultFacetLimit
  ⟨facet.1, (((bucketsOf facet.2).drop offset.toNat).take limit.toNat).map fun bucket =>
    ⟨compiler.catalog.indexedValue facet.1 bucket.key.asText, bucket.count⟩⟩

theorem map_snd_mappedFacets (compiler : SearchCompiler P) (request : FacetedSearchRequest P) :
    (compiler.mappedFacets request).map Prod.snd =
      request.facets.filterMap compiler.catalog.fieldFor := by
  unfold mappedFacets
  rw [List.map_filterMap]
  congr 1
  funext facet
  cases compiler.catalog.fieldFor facet <;> rfl

theorem NamesApart.nodup_fields {compiler : SearchCompiler P} (apart : compiler.NamesApart)
    {request : FacetedSearchRequest P} (distinct : request.facets.Nodup) :
    ((compiler.mappedFacets request).map Prod.snd).Nodup := by
  rw [map_snd_mappedFacets]
  refine distinct.filterMap ?_
  intro first second field firstField secondField
  have firstInverse := apart.inverse first field firstField
  have secondInverse := apart.inverse second field secondField
  exact Option.some.inj (firstInverse.symm.trans secondInverse)

/-! ## Bodies -/

theorem fields_of_compileFaceted_eq_ok {compiler : SearchCompiler P}
    {request : FacetedSearchRequest P} {search : CompiledSearch P}
    (compiled : compiler.compileFaceted request = .ok search) :
    (namedAggregations compiler.settings.filteredAggregationMark search.aggregations).map
      Prod.fst = (compiler.mappedFacets request).map Prod.snd := by
  obtain ⟨plan, planned, -, -, sameAggregations⟩ := of_compileFaceted_eq_ok compiled
  have facets := terms_eq_mappedFacets (terms_of_planned planned)
  rw [map_fst_namedAggregations, sameAggregations, ← facets, List.map_map]
  rfl

/-- Different facets keep their aggregations when these are sorted into a body. -/
theorem NamesApart.askedAggregations_perm {compiler : SearchCompiler P}
    (apart : compiler.NamesApart) {request : FacetedSearchRequest P}
    (distinct : request.facets.Nodup) {search : CompiledSearch P}
    (compiled : compiler.compileFaceted request = .ok search) :
    (askedAggregations (searchBody compiler.settings search)).Perm
      (namedAggregations compiler.settings.filteredAggregationMark search.aggregations) := by
  unfold askedAggregations
  rw [member?_aggs_searchBody, members?_aggregations]
  apply sortMembers_perm
  rw [fields_of_compileFaceted_eq_ok compiled]
  exact apart.nodup_fields distinct

theorem NamesApart.namesBuckets {compiler : SearchCompiler P} (apart : compiler.NamesApart)
    {request : FacetedSearchRequest P} (distinct : request.facets.Nodup)
    {search : CompiledSearch P} (compiled : compiler.compileFaceted request = .ok search) :
    NamesBuckets (askedAggregations (searchBody compiler.settings search)) := by
  intro name query inner body isAsked
  have isNamed := (apart.askedAggregations_perm distinct compiled).mem_iff.1 isAsked
  have innerName := eq_mark_append_of_mem_namedAggregations isNamed
  have isField : name ∈ (compiler.mappedFacets request).map Prod.snd := by
    rw [← fields_of_compileFaceted_eq_ok compiled]
    exact List.mem_map_of_mem isNamed
  obtain ⟨facet, mapped, rfl⟩ := List.mem_map.1 isField
  have field := ((compiler.mem_mappedFacets request facet).1 mapped).2
  rw [innerName]
  exact apart.notBuckets facet.1 facet.2 field

/-! ## Answers -/

theorem buckets_of_reports {normalizer : ResponseNormalizer P} {plan : AggregationPlan P}
    {name : String} {aggregation : Value}
    (isNamed : (name, aggregation) ∈
      namedAggregations normalizer.settings.filteredAggregationMark plan)
    {buckets : List Bucket} {raw : RawAggregation} (reports : Reports aggregation buckets raw) :
    normalizer.buckets name raw = .ok buckets := by
  cases reports with
  | terms => rfl
  | filter holds =>
      have innerName := eq_mark_append_of_mem_namedAggregations isNamed
      unfold ResponseNormalizer.buckets
      dsimp only
      rw [ResponseNormalizer.innerName, ← innerName, holds]

/-- A report under the name of a facet's field becomes that facet. -/
theorem NamesApart.facet?_of_reports {compiler : SearchCompiler P} (apart : compiler.NamesApart)
    {request : FacetedSearchRequest P} {facet : P × String}
    (mapped : facet ∈ compiler.mappedFacets request) {plan : AggregationPlan P}
    {aggregation : Value}
    (isNamed : (facet.2, aggregation) ∈
      namedAggregations compiler.settings.filteredAggregationMark plan)
    {bucketsOf : String → List Bucket} {raw : RawAggregation}
    (reports : Reports aggregation (bucketsOf facet.2) raw) :
    compiler.normalizer.facet? request (facet.2, raw) =
      .ok (some (compiler.answeredFacet request bucketsOf facet)) := by
  have field := ((compiler.mem_mappedFacets request facet).1 mapped).2
  have fieldName : compiler.normalizer.fieldOf facet.2 = facet.2 :=
    ResponseNormalizer.fieldOf_eq_self (apart.unmarked facet.1 facet.2 field)
  have parameter : compiler.normalizer.catalog.parameterFor facet.2 = some facet.1 :=
    apart.inverse facet.1 facet.2 field
  have buckets : compiler.normalizer.buckets facet.2 raw = .ok (bucketsOf facet.2) :=
    buckets_of_reports isNamed reports
  exact ResponseNormalizer.facet?_eq_some_iff.2
    ⟨facet.1, bucketsOf facet.2, fieldName.symm ▸ parameter, fieldName.symm ▸ buckets, rfl⟩

theorem facets_ascend {compiler : SearchCompiler P} {request : FacetedSearchRequest P}
    (distinct : request.facets.Nodup) (bucketsOf : String → List Bucket) :
    ((compiler.mappedFacets request).map (compiler.answeredFacet request bucketsOf)).Pairwise
      fun left right =>
        request.facets.findIdx (fun requested => decide (requested = left.parameter)) <
          request.facets.findIdx (fun requested => decide (requested = right.parameter)) := by
  unfold mappedFacets
  rw [List.pairwise_map, List.pairwise_filterMap]
  refine (pairwise_findIdx distinct).imp ?_
  intro left right before leftFacet isLeft rightFacet isRight
  obtain ⟨leftField, -, rfl⟩ := Option.map_eq_some_iff.1 isLeft
  obtain ⟨rightField, -, rfl⟩ := Option.map_eq_some_iff.1 isRight
  exact before

/-- Reports on all aggregations of a plan become the facets of the request. -/
theorem NamesApart.facets_of_reports {compiler : SearchCompiler P} (apart : compiler.NamesApart)
    {request : FacetedSearchRequest P} (distinct : request.facets.Nodup) {plan : AggregationPlan P}
    {bucketsOf : String → List Bucket} {aggregations : List (String × RawAggregation)}
    (names : (aggregations.map Prod.fst).Perm ((compiler.mappedFacets request).map Prod.snd))
    (reports : ∀ entry ∈ aggregations, ∃ aggregation,
      (entry.1, aggregation) ∈
        namedAggregations compiler.settings.filteredAggregationMark plan ∧
      Reports aggregation (bucketsOf entry.1) entry.2) :
    compiler.normalizer.facets request aggregations =
      .ok ((compiler.mappedFacets request).map (compiler.answeredFacet request bucketsOf)) := by
  -- The facet depends on the name of an aggregation only, so permuted names give permuted facets.
  let facetFor : String → Option (Facet P) := fun field =>
    (compiler.catalog.parameterFor field).map fun parameter =>
      compiler.answeredFacet request bucketsOf (parameter, field)
  have each : ∀ entry ∈ aggregations,
      compiler.normalizer.facet? request entry = .ok (facetFor entry.1) := by
    intro entry inAggregations
    obtain ⟨aggregation, isNamed, reportsEntry⟩ := reports entry inAggregations
    have isField := names.mem_iff.1 (List.mem_map_of_mem inAggregations)
    obtain ⟨facet, mapped, sameField⟩ := List.mem_map.1 isField
    have field := ((compiler.mem_mappedFacets request facet).1 mapped).2
    have inverse := apart.inverse facet.1 facet.2 field
    obtain ⟨name, raw⟩ := entry
    subst sameField
    rw [apart.facet?_of_reports mapped isNamed reportsEntry]
    simp [facetFor, inverse]
  have ofFields : ((compiler.mappedFacets request).map Prod.snd).filterMap facetFor =
      (compiler.mappedFacets request).map (compiler.answeredFacet request bucketsOf) := by
    rw [List.filterMap_map, ← List.filterMap_eq_map]
    refine List.filterMap_congr fun facet mapped => ?_
    have field := ((compiler.mem_mappedFacets request facet).1 mapped).2
    have inverse := apart.inverse facet.1 facet.2 field
    simp [facetFor, inverse]
  have found : compiler.normalizer.facetsOf request aggregations =
      .ok (aggregations.filterMap fun entry => facetFor entry.1) :=
    ResponseNormalizer.facetsOf_eq_ok each
  have sameFacets : (aggregations.filterMap fun entry => facetFor entry.1).Perm
      ((compiler.mappedFacets request).map (compiler.answeredFacet request bucketsOf)) := by
    have byName := names.filterMap facetFor
    rw [List.filterMap_map, ofFields] at byName
    exact byName
  unfold ResponseNormalizer.facets
  rw [found]
  exact congrArg Except.ok (sortBy_eq_of_perm _ sameFacets (facets_ascend distinct bucketsOf))

/-- **Facets return from an engine.** If the aggregations of a body are answered, each with the
buckets of its field, then the answer is read and made uniform, and its facets are those facets of
the request that have a field, in order, each with its page of the buckets of its own field. -/
theorem compileFaceted_facets {T : Type} {compiler : SearchCompiler P}
    (apart : compiler.NamesApart) {request : FacetedSearchRequest P}
    (distinct : request.facets.Nodup) {search : CompiledSearch P}
    (compiled : compiler.compileFaceted request = .ok search)
    {bucketsOf : String → List Bucket} {text : String} {document : Document}
    (written : Document.read? text = some document)
    (answers : Answers (searchBody compiler.settings search) bucketsOf document)
    (mapper : Hit → T) :
    ∃ raw response, readSearch text = .ok raw ∧
      compiler.normalizer.normalizeFaceted request mapper raw = .ok response ∧
      response.facets =
        (compiler.mappedFacets request).map (compiler.answeredFacet request bucketsOf) := by
  have asked := apart.askedAggregations_perm distinct compiled
  have fields := fields_of_compileFaceted_eq_ok compiled
  obtain ⟨raw, read, distinctNames, sameNames, reports⟩ :=
    readSearch_of_answers written (apart.namesBuckets distinct compiled) answers
  have names : (raw.aggregations.map Prod.fst).Perm
      ((compiler.mappedFacets request).map Prod.snd) := by
    rw [List.perm_ext_iff_of_nodup distinctNames (apart.nodup_fields distinct)]
    intro name
    rw [sameNames, (asked.map Prod.fst).mem_iff, fields]
  have reportsNamed : ∀ entry ∈ raw.aggregations, ∃ aggregation,
      (entry.1, aggregation) ∈
        namedAggregations compiler.settings.filteredAggregationMark search.aggregations ∧
      Reports aggregation (bucketsOf entry.1) entry.2 := by
    intro entry inAggregations
    obtain ⟨aggregation, isAsked, reportsEntry⟩ := reports entry inAggregations
    exact ⟨aggregation, asked.mem_iff.1 isAsked, reportsEntry⟩
  have facets := apart.facets_of_reports distinct names reportsNamed
  obtain ⟨response, normalized, responseFacets⟩ :=
    ResponseNormalizer.normalizeFaceted_eq_ok facets mapper
  exact ⟨raw, response, read, normalized, responseFacets⟩

end SearchCompiler

/-! ## Observations of species -/

namespace Observations

theorem compiler_namesApart : compiler.NamesApart := by
  have apart : ∀ facet ∈ [(country, "country"), (year, "year"), (kingdom, "kingdom")],
      compiler.catalog.parameterFor facet.2 = some facet.1 ∧
        ¬ compiler.settings.filteredAggregationMark.toList <+: facet.2.toList ∧
        compiler.settings.filteredAggregationMark ++ facet.2 ≠ "buckets" := by
    decide +kernel
  exact
    { inverse := fun _ _ mapped => (apart _ (mem_of_fieldFor mapped)).1
      unmarked := fun _ _ mapped => (apart _ (mem_of_fieldFor mapped)).2.1
      notBuckets := fun _ _ mapped => (apart _ (mem_of_fieldFor mapped)).2.2 }

/-- The request with a page of one bucket after the first one. -/
def pagedRequest : FacetedSearchRequest DeclaredParameter :=
  { request with facetOffset := some 1, facetLimit := some 1 }

/-- The buckets of the two fields. -/
def observedBuckets (field : String) : List Bucket :=
  if field = "year" then [⟨.integer 1990, 3⟩, ⟨.integer 2001, 2⟩]
  else [⟨.text "DK", 4⟩, ⟨.text "NO", 1⟩]

def wholeNumber (digits : String) : Document :=
  .number ⟨false, digits.toList, [], none⟩

def bucketDocument (key : Document) (count : String) : Document :=
  .ofMembers [("key", key), ("doc_count", wholeNumber count)]

/-- A filter with buckets inside it. -/
def filterDocument (inner : String) (buckets : List Document) : Document :=
  .ofMembers
    [("doc_count", wholeNumber "5"), (inner, .ofMembers [("buckets", .array buckets)])]

def observedAnswers : List (String × Document) :=
  [("year", filterDocument ("filtered_" ++ "year")
      [bucketDocument (wholeNumber "1990") "3", bucketDocument (wholeNumber "2001") "2"]),
   ("country", filterDocument ("filtered_" ++ "country")
      [bucketDocument (.string (some "DK")) "4", bucketDocument (.string (some "NO")) "1"])]

def observedDocument : Document :=
  .ofMembers
    [("took", wholeNumber "3"), ("hits", .ofMembers [("hits", .array [])]),
     ("aggregations", .ofMembers observedAnswers)]

def observedChars : List Char :=
  (["\x7b\"took\": 3, \"hits\": \x7b\"hits\": []\x7d,",
     " \"aggregations\": \x7b\"year\": \x7b\"doc_count\": 5,",
     " \"filtered_year\": \x7b\"buckets\": [",
     "\x7b\"key\": 1990, \"doc_count\": 3\x7d, ",
     "\x7b\"key\": 2001, \"doc_count\": 2\x7d]\x7d\x7d,",
     " \"country\": \x7b\"doc_count\": 5,",
     " \"filtered_country\": \x7b\"buckets\": [",
     "\x7b\"key\": \"DK\", \"doc_count\": 4\x7d, ",
     "\x7b\"key\": \"NO\", \"doc_count\": 1\x7d]\x7d\x7d\x7d\x7d"].map
    String.toList).flatten

def observedText : String :=
  String.ofList observedChars

theorem read?_observedText : Document.read? observedText = some observedDocument := by
  apply Document.read?_ofList
  decide +kernel

theorem showsBucket_bucketDocument {bucket : Bucket} {key : Document} {count : String}
    (showsKey : ShowsKey bucket.key key)
    (written : Literal.number? ⟨false, count.toList, [], none⟩ =
      some (.integer bucket.count.toNat)) :
    ShowsBucket bucket (bucketDocument key count) :=
  ⟨key, wholeNumber count, showsKey, .number _ written, .ofMembers (by simp)⟩

theorem showsFilter_filterDocument {inner : String} (differs : "doc_count" ≠ inner)
    {buckets : List Bucket} {documents : List Document}
    (shows : List.Forall₂ ShowsBucket buckets documents) :
    ShowsFilter inner buckets (filterDocument inner documents) :=
  ⟨5, wholeNumber "5", .ofMembers [("buckets", .array documents)], .number _ (by decide +kernel),
    ⟨documents, shows, .ofMembers (by simp)⟩, .ofMembers (by simp [differs])⟩

theorem answers_observedDocument {search : CompiledSearch DeclaredParameter}
    {onCountry onYear : List QueryNode}
    (plan : search.aggregations =
      .multiSelect [⟨⟨country, "country", 2, 1, 1, none⟩, onCountry⟩,
        ⟨⟨year, "year", 2, 1, 1, none⟩, onYear⟩]) :
    Answers (searchBody compiler.settings search) observedBuckets observedDocument := by
  have asked : askedAggregations (searchBody compiler.settings search) =
      [("country", filterAggregation "filtered_"
          ⟨⟨country, "country", 2, 1, 1, none⟩, onCountry⟩),
        ("year", filterAggregation "filtered_" ⟨⟨year, "year", 2, 1, 1, none⟩, onYear⟩)] := by
    unfold askedAggregations
    rw [member?_aggs_searchBody, members?_aggregations, plan]
    have ordered : ¬ "year" < "country" ∧ "year" ≠ "country" := by decide +kernel
    simp only [namedAggregations, sortMembers, writeMember, List.map_cons, List.map_nil,
      List.foldl_cons, List.foldl_nil, if_neg ordered.1, if_neg ordered.2]
    rfl
  have atYear :
      ShowsFilter ("filtered_" ++ "year") (observedBuckets "year") (observedAnswers[0]).2 :=
    showsFilter_filterDocument (by decide)
      (.cons (showsBucket_bucketDocument (.integer _ _ (by decide +kernel)) (by decide +kernel))
        (.cons (showsBucket_bucketDocument (.integer _ _ (by decide +kernel)) (by decide +kernel))
          .nil))
  have atCountry :
      ShowsFilter ("filtered_" ++ "country") (observedBuckets "country") (observedAnswers[1]).2 :=
    showsFilter_filterDocument (by decide)
      (.cons (showsBucket_bucketDocument (.text _) (by decide +kernel))
        (.cons (showsBucket_bucketDocument (.text _) (by decide +kernel)) .nil))
  refine ⟨_, observedAnswers, .ofMembers [("hits", .array [])], ⟨none, []⟩, rfl, by decide,
    by simp, rfl, ⟨by decide, ?_, ?_⟩, .inl (by simp)⟩
  · rw [asked]
    intro aggregation isAsked
    rcases List.mem_pair.1 isAsked with rfl | rfl
    · exact List.mem_cons_of_mem _ List.mem_cons_self
    · exact List.mem_cons_self
  · rw [asked]
    intro entry inAnswers
    rcases List.mem_pair.1 inAnswers with rfl | rfl
    · exact ⟨_, List.mem_cons_of_mem _ List.mem_cons_self, .filter atYear⟩
    · exact ⟨_, List.mem_cons_self, .filter atCountry⟩

theorem compileFaceted_facets_observations :
    ∃ raw response, readSearch observedText = .ok raw ∧
      compiler.normalizer.normalizeFaceted pagedRequest Hit.id raw = .ok response ∧
      response.facets = [⟨country, [⟨"NO", 1⟩]⟩, ⟨year, [⟨"2001", 2⟩]⟩] := by
  have planned : ∃ search onCountry onYear,
      compiler.compileFaceted pagedRequest = .ok search ∧
      search.aggregations =
        .multiSelect [⟨⟨country, "country", 2, 1, 1, none⟩, onCountry⟩,
          ⟨⟨year, "year", 2, 1, 1, none⟩, onYear⟩] :=
    ⟨_, _, _, rfl, rfl⟩
  obtain ⟨search, onCountry, onYear, compiled, plan⟩ := planned
  obtain ⟨raw, response, read, normalized, facets⟩ :=
    compiler.compileFaceted_facets compiler_namesApart (by decide) compiled read?_observedText
      (answers_observedDocument plan) Hit.id
  have pages : (compiler.mappedFacets pagedRequest).map
      (compiler.answeredFacet pagedRequest observedBuckets) =
        [⟨country, [⟨"NO", 1⟩]⟩, ⟨year, [⟨"2001", 2⟩]⟩] := by
    decide +kernel
  exact ⟨raw, response, read, normalized, facets.trans pages⟩

end Observations

end FacetedSearch
