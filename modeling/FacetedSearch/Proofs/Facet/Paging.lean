import FacetedSearch.Proofs.Engine.Elasticsearch.Facets

/-!
Contract: pages of a facet.

Owns:
- `page_take_of_covers`: the first buckets of a list, as many as cover a page, have the same page as
  the whole list;
- `SearchCompiler.covers_page`: the size of an aggregation covers its page;
- `ShowsPage`, a facet made of as many buckets as its aggregation asks for;
- `facet_pages_exact`: which pages are refused, and what the others show, one by one and in a row.

The size is computed from the page before an engine is asked, the page is cut out of its answer.
Between the two, a size that was cut by the number of different values or by the greatest word is
smaller than the end of the page; it covers the page since then it covers all buckets.

Does not own: the order in which an engine lists its buckets.
-/

namespace FacetedSearch

/-! ## Pages of lists -/

/-- A page is found in the first elements of a list if they reach its end or are all. -/
theorem page_take_of_covers {α : Type} {full : List α} {offset limit size : Nat}
    (covers : offset + limit ≤ size ∨ full.length ≤ size) :
    ((full.take size).drop offset).take limit = (full.drop offset).take limit := by
  rcases covers with reaches | whole
  · rw [List.drop_take, List.take_take, Nat.min_eq_left (by omega)]
  · rw [List.take_of_length_le whole]

/-- Pages in a row hold what is between the start of the first and the end of the last. -/
theorem flatMap_pages {α : Type} (full : List α) (start limit count : Nat) :
    (List.range count).flatMap (fun index => (full.drop (start + index * limit)).take limit) =
      (full.drop start).take (count * limit) := by
  induction count with
  | zero => simp
  | succ count inductionHypothesis =>
      rw [List.range_succ, List.flatMap_append, inductionHypothesis, Nat.succ_mul, List.take_add,
        List.drop_drop]
      simp

variable {P : Type} [SearchParameter P]

namespace SearchCompiler

/-! ## Sizes and pages -/

/-- An aggregation of the granted size reaches the end of its page or has all buckets. -/
theorem covers_page {compiler : SearchCompiler P} {field : String} {offset limit size : UInt64}
    (granted : compiler.aggregationSize field offset limit = .ok size) {full : List Bucket}
    (short : full.length < UInt64.size)
    (known : ∀ count, compiler.catalog.cardinalityOf field = some count →
      full.length ≤ count.toNat) :
    offset.toNat + limit.toNat ≤ size.toNat ∨ full.length ≤ size.toNat := by
  have size := ((compiler.aggregationSize_eq_ok_iff field offset limit size).1 granted).2
  have notLonger : full.length ≤ Numeral.maxWord := Nat.le_of_lt_succ short
  rw [size, coveringSize]
  cases counted : compiler.catalog.cardinalityOf field with
  | none =>
      rw [Option.map_none, Option.getD_none]
      omega
  | some count =>
      have fewer := known count counted
      rw [Option.map_some, Option.getD_some]
      omega

/-- Whether a facet is made of the first buckets of its field, as many as it asks for. -/
def ShowsPage (compiler : SearchCompiler P) (field : String) (full : List Bucket)
    (request : FacetedSearchRequest P) (parameter : P) (facet : Facet P) : Prop :=
  ∃ size name raw,
    compiler.aggregationSize field (request.facetOffsetFor parameter)
      (request.facetLimitFor parameter compiler.settings.defaultFacetLimit) = .ok size ∧
    compiler.normalizer.fieldOf name = field ∧
    compiler.normalizer.buckets field raw = .ok (full.take size.toNat) ∧
    compiler.normalizer.facet? request (name, raw) = .ok (some facet)

/-! ## Facets of the first buckets -/

/-- As many of the first buckets as an aggregation asks for show the page of all buckets. -/
theorem facet?_of_first_buckets {compiler : SearchCompiler P} {field : String} {parameter : P}
    (known : compiler.catalog.parameterFor field = some parameter)
    {request : FacetedSearchRequest P} {size : UInt64}
    (granted : compiler.aggregationSize field (request.facetOffsetFor parameter)
      (request.facetLimitFor parameter compiler.settings.defaultFacetLimit) = .ok size)
    {full : List Bucket} (short : full.length < UInt64.size)
    (counted : ∀ count, compiler.catalog.cardinalityOf field = some count →
      full.length ≤ count.toNat)
    {name : String} {raw : RawAggregation} (named : compiler.normalizer.fieldOf name = field)
    (first : compiler.normalizer.buckets field raw = .ok (full.take size.toNat)) :
    compiler.normalizer.facet? request (name, raw) =
      .ok (some (compiler.answeredFacet request (fun _ => full) (parameter, field))) := by
  have samePage := page_take_of_covers (covers_page granted short counted)
  refine ResponseNormalizer.facet?_eq_some_iff.2
    ⟨parameter, full.take size.toNat, named.symm ▸ known, named.symm ▸ first, ?_⟩
  refine congrArg (fun page => (⟨parameter, page⟩ : Facet P)) ?_
  exact congrArg (List.map (compiler.normalizer.facetCount parameter)) samePage

/-- **Pages of a facet are exact.** A page is refused exactly if the buckets up to its end, as far
as there can be so many, exceed the ceiling. Otherwise the first buckets of a field, as many as the
aggregation asks for, show the page of all its buckets, and pages of one limit, each starting where
the one before ends, show every bucket between them once and in order. -/
theorem facet_pages_exact (compiler : SearchCompiler P) (field : String) :
    (∀ offset limit error, compiler.aggregationSize field offset limit = .error error ↔
      compiler.settings.maxFacetSize.toNat < compiler.coveringSize field offset limit ∧
        error = .facetTooLarge compiler.settings.maxFacetSize) ∧
    ∀ parameter, compiler.catalog.parameterFor field = some parameter →
      ∀ full : List Bucket, full.length < UInt64.size →
      (∀ count, compiler.catalog.cardinalityOf field = some count →
        full.length ≤ count.toNat) →
      (∀ request size name raw,
        compiler.aggregationSize field (request.facetOffsetFor parameter)
          (request.facetLimitFor parameter compiler.settings.defaultFacetLimit) = .ok size →
        compiler.normalizer.fieldOf name = field →
        compiler.normalizer.buckets field raw = .ok (full.take size.toNat) →
        compiler.normalizer.facet? request (name, raw) =
          .ok (some (compiler.answeredFacet request (fun _ => full) (parameter, field)))) ∧
      ∀ (start : Nat) (limit : UInt64) (count : Nat)
        (requests : Nat → FacetedSearchRequest P) (facets : Nat → Facet P),
        (∀ index < count,
          ((requests index).facetOffsetFor parameter).toNat = start + index * limit.toNat ∧
          (requests index).facetLimitFor parameter compiler.settings.defaultFacetLimit = limit ∧
          compiler.ShowsPage field full (requests index) parameter (facets index)) →
        (List.range count).flatMap (fun index => (facets index).counts) =
          ((full.drop start).take (count * limit.toNat)).map
            (compiler.normalizer.facetCount parameter) := by
  refine ⟨compiler.aggregationSize_eq_error_iff field, ?_⟩
  intro parameter known full short counted
  refine ⟨fun request size name raw granted named first =>
    facet?_of_first_buckets known granted short counted named first, ?_⟩
  intro start limit count requests facets shows
  rw [← flatMap_pages, List.map_flatMap]
  refine List.flatMap_congr fun index inRange => ?_
  obtain ⟨offset, sameLimit, size, name, raw, granted, named, first, shown⟩ :=
    shows index (List.mem_range.1 inRange)
  rw [facet?_of_first_buckets known granted short counted named first] at shown
  have sameFacet := Option.some.inj (Except.ok.inj shown)
  rw [← sameFacet, ← offset, ← sameLimit]
  rfl

end SearchCompiler

/-! ## Observations of species -/

namespace Observations

/-- All buckets of a field with eight different values. -/
def kingdoms : List Bucket :=
  [⟨.text "Animalia", 90⟩, ⟨.text "Plantae", 80⟩, ⟨.text "Fungi", 70⟩, ⟨.text "Chromista", 60⟩,
   ⟨.text "Bacteria", 50⟩, ⟨.text "Protozoa", 40⟩, ⟨.text "Viruses", 30⟩, ⟨.text "Archaea", 20⟩]

/-- Pages of six buckets. The second one ends past the last bucket. -/
def kingdomPage (index : Nat) : FacetedSearchRequest DeclaredParameter where
  facets := [kingdom]
  facetOffset := some (if index = 0 then 0 else 6)
  facetLimit := some 6

/-- The answers, the second one to an aggregation that the number of values cuts. -/
def kingdomAnswer (index : Nat) : RawAggregation :=
  .terms (kingdoms.take (if index = 0 then 6 else 8))

theorem facet_pages_exact_kingdoms :
    compiler.aggregationSize "country" 18446744073709551615 18446744073709551615 =
        .error (.facetTooLarge 1200000) ∧
      compiler.aggregationSize "kingdom" 6 6 = .ok 8 ∧
      ∃ first second,
        compiler.normalizer.facet? (kingdomPage 0) ("kingdom", kingdomAnswer 0) =
          .ok (some first) ∧
        compiler.normalizer.facet? (kingdomPage 1) ("kingdom", kingdomAnswer 1) =
          .ok (some second) ∧
        first.counts ++ second.counts =
          kingdoms.map (compiler.normalizer.facetCount kingdom) := by
  obtain ⟨refused, -⟩ := compiler.facet_pages_exact "country"
  obtain ⟨-, shown⟩ := compiler.facet_pages_exact "kingdom"
  have known : compiler.catalog.parameterFor "kingdom" = some kingdom := by decide +kernel
  have cardinality : compiler.catalog.cardinalityOf "kingdom" = some 8 := by decide +kernel
  obtain ⟨exact, inRow⟩ := shown kingdom known kingdoms (by decide) (by
    intro count counted
    rw [cardinality] at counted
    cases counted
    decide)
  let facet (index : Nat) : Facet DeclaredParameter :=
    compiler.answeredFacet (kingdomPage index) (fun _ => kingdoms) (kingdom, "kingdom")
  have named : compiler.normalizer.fieldOf "kingdom" = "kingdom" := by decide +kernel
  have granted : compiler.aggregationSize "kingdom" 0 6 = .ok 6 := rfl
  have cut : compiler.aggregationSize "kingdom" 6 6 = .ok 8 := rfl
  have firstShown := exact (kingdomPage 0) 6 "kingdom" (kingdomAnswer 0) granted named rfl
  have secondShown := exact (kingdomPage 1) 8 "kingdom" (kingdomAnswer 1) cut named rfl
  have pages := inRow 0 6 2 kingdomPage facet (by
    intro index below
    match index, below with
    | 0, _ => exact ⟨rfl, rfl, 6, "kingdom", kingdomAnswer 0, granted, named, rfl, firstShown⟩
    | 1, _ => exact ⟨rfl, rfl, 8, "kingdom", kingdomAnswer 1, cut, named, rfl, secondShown⟩)
  refine ⟨(refused _ _ _).2 ⟨by decide +kernel, rfl⟩, cut, _, _, firstShown, secondShown, ?_⟩
  simpa [List.range_succ, facet, kingdoms] using pages

end Observations

end FacetedSearch
