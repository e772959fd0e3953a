import FacetedSearch.Proofs.Catalog.Directions
import FacetedSearch.Proofs.Facet.Split
import FacetedSearch.Proofs.Filter.Ranges
import FacetedSearch.Proofs.Query.Selections
import FacetedSearch.Proofs.Response.Facets

/-!
Contract: the names of a facet's values as filter values of its parameter.

Owns:
- `Vocabulary.ToldApart` and `Vocabulary.Knows`: vocabularies that are looked up without ambiguity,
  and the indexed values that stand for one of their names;
- `FieldCatalog.ShowsNames`, catalogs that show indexed values without a choice of the application;
- `FilterSyntax.IsPlain`, the raw values that are neither excluded ones nor ranges;
- `exists_bucket_of_mem_counts`: where the values of a facet come from;
- `drillDown_iff`: a name compiles to the statement that the field has it exactly if it is plain and
  the indexed value stands for a name.

Does not own: which buckets a facet shows, and names that an application chooses.
-/

namespace FacetedSearch

open Text

/-! ## Vocabularies -/

namespace Vocabulary

/-- Names with normal forms that are not empty and tell them apart. -/
structure ToldApart (vocabulary : Vocabulary) : Prop where
  filled : ∀ name ∈ vocabulary, normalForm name ≠ []
  distinct : (vocabulary.map normalForm).Nodup

theorem mem_of_lookup?_eq_some {vocabulary : Vocabulary} {value name : String}
    (found : vocabulary.lookup? value = some name) :
    name ∈ vocabulary ∧ normalForm name = normalForm value := by
  unfold lookup? at found
  dsimp only at found
  split at found
  · cases found
  · exact ⟨List.mem_of_find?_eq_some found, by simpa using List.find?_some found⟩

namespace ToldApart

variable {vocabulary : Vocabulary}

/-- A text is looked up as the one name with its normal form. -/
theorem lookup?_eq_some_iff (apart : vocabulary.ToldApart) {value name : String} :
    vocabulary.lookup? value = some name ↔
      name ∈ vocabulary ∧ normalForm name = normalForm value := by
  constructor
  · exact mem_of_lookup?_eq_some
  · intro known
    obtain ⟨member, sameForm⟩ := known
    have notEmpty : ¬ (normalForm value).isEmpty = true := by
      rw [List.isEmpty_iff, ← sameForm]
      exact apart.filled name member
    rw [lookup?]
    simp only [if_neg notEmpty]
    cases found : vocabulary.find? fun other => normalForm other == normalForm value with
    | none =>
        have differs := List.find?_eq_none.1 found name member
        simp [sameForm] at differs
    | some other =>
        have otherForm : normalForm other = normalForm value := by
          simpa using List.find?_some found
        rw [List.inj_on_of_nodup_map apart.distinct (List.mem_of_find?_eq_some found) member
          (otherForm.trans sameForm.symm)]

theorem lookup?_self_iff (apart : vocabulary.ToldApart) (name : String) :
    vocabulary.lookup? name = some name ↔ name ∈ vocabulary := by
  rw [apart.lookup?_eq_some_iff]
  exact and_iff_left rfl

end ToldApart

/-- Whether an indexed value stands for a name: numerals for the name at their position, or for
themselves, and other texts for the name that is spelled like them. -/
def Knows (vocabulary : Vocabulary) (indexed : String) : Prop :=
  match Numeral.readNat? Numeral.maxWord (trimBlanks indexed.toList) with
  | some position => position < vocabulary.length ∨ indexed ∈ vocabulary
  | none => ∃ name ∈ vocabulary, normalForm name = normalForm indexed

theorem ToldApart.shown_mem_iff {vocabulary : Vocabulary} (apart : vocabulary.ToldApart)
    (indexed : String) :
    (vocabulary.canonical? indexed).getD indexed ∈ vocabulary ↔ vocabulary.Knows indexed := by
  unfold canonical? Knows
  cases Numeral.readNat? Numeral.maxWord (trimBlanks indexed.toList) with
  | some position =>
      by_cases within : position < vocabulary.length <;> simp [within]
  | none =>
      dsimp only
      cases found : vocabulary.lookup? indexed with
      | some name =>
          have known := mem_of_lookup?_eq_some found
          exact iff_of_true known.1 ⟨name, known⟩
      | none =>
          have unknown : ∀ name ∈ vocabulary, normalForm name ≠ normalForm indexed := by
            intro name member sameForm
            rw [apart.lookup?_eq_some_iff.2 ⟨member, sameForm⟩] at found
            cases found
          apply iff_of_false
          · intro member
            exact unknown indexed member rfl
          · intro known
            obtain ⟨name, member, sameForm⟩ := known
            exact unknown name member sameForm

end Vocabulary

/-! ## Names of indexed values -/

namespace ValueType

/-- The name of an indexed value if an application chooses none. -/
def shown : ValueType → String → String
  | .enumeration vocabulary, indexed => (vocabulary.canonical? indexed).getD indexed
  | _, indexed => indexed

/-- Types whose values are texts or names that are told apart. -/
def HasNames : ValueType → Prop
  | .text => True
  | .enumeration vocabulary => vocabulary.ToldApart
  | _ => False

/-- Whether an indexed value stands for a value of the type. -/
def Knows : ValueType → String → Prop
  | .enumeration vocabulary, indexed => vocabulary.Knows indexed
  | _, _ => True

/-- The value that a name is. -/
def valueOf : ValueType → String → TypedValue
  | .enumeration _, name => .keyword name
  | _, name => .text name

end ValueType

variable {P : Type} [SearchParameter P]

/-- No choice of the application stands between indexed values of a parameter and their names. -/
def FieldCatalog.ShowsNames (catalog : FieldCatalog P) (parameter : P) : Prop :=
  ∀ indexed, catalog.indexedValue parameter indexed =
    (SearchParameter.valueType parameter).shown indexed

namespace CatalogTable

theorem showsNames_bareCatalog (table : CatalogTable P) (parameter : P) :
    table.bareCatalog.ShowsNames parameter := by
  intro indexed
  cases type : SearchParameter.valueType parameter <;>
    simp [bareCatalog, type, ValueType.shown]

theorem showsNames_catalog {table : CatalogTable P} {parameter : P}
    (noHook : table.indexedValues.find? parameter = none) :
    table.catalog.ShowsNames parameter := by
  intro indexed
  have shown := table.showsNames_bareCatalog parameter indexed
  simpa [catalog, noHook] using shown

/-- Without a statement on how the values of a parameter are shown there is no choice. -/
theorem showsNames_ofDeclarations {declarations : List (Declaration P)} {parameter : P}
    (noHook : ∀ shown, Declaration.indexedValue parameter shown ∉ declarations) :
    (ofDeclarations declarations).catalog.ShowsNames parameter := by
  apply showsNames_catalog
  unfold ofDeclarations
  induction declarations using List.reverseRecOn with
  | nil => rfl
  | append_singleton earlier added inductionHypothesis =>
      have before := inductionHypothesis fun shown member =>
        noHook shown (List.mem_append_left _ member)
      rw [List.foldl_append, List.foldl_cons, List.foldl_nil]
      cases added with
      | indexedValue other shown =>
          have different : parameter ≠ other := by
            intro same
            exact noHook shown (List.mem_append_right _ (same ▸ List.mem_singleton_self _))
          exact (Keyed.find?_insert_of_ne _ different shown).trans before
      | _ => exact before

end CatalogTable

/-! ## Names as raw values -/

namespace FilterSyntax

variable {filterSyntax : FilterSyntax} {type : ValueType} {raw : String} {value : TypedValue}

/-- A raw value that is not marked as an excluded one and cannot be read as a range. -/
structure IsPlain (filterSyntax : FilterSyntax) (raw : String) : Prop where
  unmarked : ¬ filterSyntax.negationMark.toList <+: raw.toList
  noRange : ∀ lower upper, ¬ filterSyntax.range.Reads raw.toList lower upper

theorem isPlain_iff :
    filterSyntax.IsPlain raw ↔
      filterSyntax.negated? raw = none ∧ filterSyntax.range.split? raw = none := by
  rw [negated?_eq_none_iff, RangeSyntax.split?_eq_none_iff]
  constructor
  · intro plain
    exact ⟨plain.unmarked, plain.noRange⟩
  · intro both
    exact ⟨both.1, both.2⟩

theorem readRange_ne_equals (lower upper : String) :
    filterSyntax.readRange type raw lower upper ≠ .ok (.equals value) := by
  unfold readRange
  split
  · split
    · exact nofun
    · intro read
      obtain ⟨bound, -, between⟩ := map_eq_ok_iff.1 read
      cases between
  · exact nofun

/-- A raw value of a type other than dates states a single value exactly if it is no range. -/
theorem readCondition_eq_equals_iff (notDate : type ≠ .date) :
    filterSyntax.readCondition type raw = .ok (.equals value) ↔
      filterSyntax.range.split? raw = none ∧ readScalar type raw = .ok value := by
  unfold readCondition
  cases cut : filterSyntax.range.split? raw with
  | some bounds => simpa using readRange_ne_equals bounds.1 bounds.2
  | none =>
      cases type with
      | date => exact absurd rfl notDate
      | _ => simp [map_eq_ok_iff]

theorem readSelection_eq_selected_iff {condition : Condition} :
    filterSyntax.readSelection type raw = .ok ⟨false, condition⟩ ↔
      filterSyntax.negated? raw = none ∧ filterSyntax.readCondition type raw = .ok condition := by
  unfold readSelection
  cases marked : filterSyntax.negated? raw with
  | none => simp [map_eq_ok_iff]
  | some rest =>
      dsimp only
      split
      · simp
      · simp [map_eq_ok_iff]

end FilterSyntax

/-- A name is read as itself exactly if it is a text or in its vocabulary. -/
theorem readScalar_shown_iff {type : ValueType} (named : type.HasNames) (indexed : String) :
    readScalar type (type.shown indexed) = .ok (type.valueOf (type.shown indexed)) ↔
      type.Knows indexed := by
  cases type with
  | text => exact iff_of_true rfl trivial
  | enumeration vocabulary =>
      have apart : vocabulary.ToldApart := named
      show orMalformed _ _ ((vocabulary.lookup? ((vocabulary.canonical? indexed).getD indexed)).map
        TypedValue.keyword) = .ok (.keyword ((vocabulary.canonical? indexed).getD indexed)) ↔
          vocabulary.Knows indexed
      rw [← apart.shown_mem_iff, ← apart.lookup?_self_iff]
      cases vocabulary.lookup? ((vocabulary.canonical? indexed).getD indexed) with
      | none => simp [orMalformed, malformedValue]
      | some name => simp [orMalformed]
  | _ => exact named.elim

/-- The tree of a single selection is its statement, denied if the selection is an excluded one. -/
theorem selectionNode_singleton (field : String) (negated : Bool) (condition : Condition) :
    selectionNode field [⟨negated, condition⟩] =
      some (if negated then .not (.predicate (condition.statement field))
        else .predicate (condition.statement field)) := by
  cases negated <;> cases condition <;> rfl

theorem selectionNode_eq_equality_iff {field : String} {selection : Selection}
    {value : TypedValue} :
    selectionNode field [selection] = some (.predicate (.equality field value)) ↔
      selection = ⟨false, .equals value⟩ := by
  obtain ⟨negated, condition⟩ := selection
  rw [selectionNode_singleton]
  cases negated <;> cases condition <;> simp [Condition.statement]

namespace SearchCompiler

/-- The tree of a single raw value is one equality exactly if the raw value is read so. -/
theorem parameterFilter_singleton_iff {compiler : SearchCompiler P} {parameter : P}
    {field raw : String} (mapped : compiler.catalog.fieldFor parameter = some field)
    {value : TypedValue} :
    compiler.parameterFilter parameter (.ofList [raw]) =
        .ok (some (.predicate (.equality field value))) ↔
      compiler.readSelection parameter field raw = .ok ⟨false, .equals value⟩ := by
  have single : (RawValues.ofList [raw]).values = [raw] := rfl
  unfold parameterFilter
  rw [mapped]
  dsimp only
  rw [single, mapM_cons_eq]
  cases read : compiler.readSelection parameter field raw with
  | error error => simp [Except.map]
  | ok selection =>
      simp only [List.mapM_nil, pure, Except.pure, Except.map, Except.ok.injEq]
      exact selectionNode_eq_equality_iff

end SearchCompiler

/-! ## The values of a facet -/

/-- Each value of a facet is the name of a bucket of its parameter, with the bucket's count. -/
theorem ResponseNormalizer.exists_bucket_of_mem_counts {normalizer : ResponseNormalizer P}
    {request : FacetedSearchRequest P} {aggregations : List (String × RawAggregation)}
    {facets : List (Facet P)} (found : normalizer.facets request aggregations = .ok facets)
    {facet : Facet P} (member : facet ∈ facets) {count : FacetCount}
    (counted : count ∈ facet.counts) :
    ∃ aggregation ∈ aggregations, ∃ buckets,
      normalizer.buckets (normalizer.fieldOf aggregation.1) aggregation.2 = .ok buckets ∧
        ∃ bucket ∈ buckets, count = normalizer.facetCount facet.parameter bucket := by
  obtain ⟨unsorted, each, rfl⟩ := map_eq_ok_iff.1 found
  obtain ⟨aggregation, inAnswer, made⟩ :=
    exists_mem_of_facetsOf_eq_ok each ((sortBy_perm _ _).mem_iff.1 member)
  refine ⟨aggregation, inAnswer, ?_⟩
  obtain ⟨parameter, buckets, -, hasBuckets, rfl⟩ := facet?_eq_some_iff.1 made
  obtain ⟨bucket, inPage, rfl⟩ := List.mem_map.1 counted
  exact ⟨buckets, hasBuckets, bucket, List.mem_of_mem_drop (List.mem_of_mem_take inPage), rfl⟩

namespace SearchCompiler

/-- A name, as the only filter value of a parameter, states that the field has that name. -/
def Selects (compiler : SearchCompiler P) (parameter : P) (field name : String) : Prop :=
  compiler.parameterFilter parameter (.ofList [name]) =
    .ok (some (.predicate
      (.equality field ((SearchParameter.valueType parameter).valueOf name))))

/-- A name compiles to the statement that the field has it exactly if it is plain and its indexed
value stands for a value. -/
theorem selects_shown_iff {compiler : SearchCompiler P} {parameter : P} {field : String}
    (mapped : compiler.catalog.fieldFor parameter = some field)
    (notSpatial : compiler.catalog.isSpatialParameter parameter = false)
    (notDate : compiler.catalog.isDateField field = false) {type : ValueType}
    (ofType : SearchParameter.valueType parameter = type) (named : type.HasNames)
    (indexed : String) :
    compiler.Selects parameter field (type.shown indexed) ↔
      compiler.settings.filterSyntax.IsPlain (type.shown indexed) ∧ type.Knows indexed := by
  have noDates : type ≠ .date := by
    intro isDate
    rw [isDate] at named
    exact named
  have reading : compiler.readSelection parameter field (type.shown indexed) =
      compiler.settings.filterSyntax.readSelection type (type.shown indexed) := by
    simp [readSelection, fieldType, notSpatial, notDate, ofType]
  rw [Selects, ofType, parameterFilter_singleton_iff mapped, reading,
    FilterSyntax.readSelection_eq_selected_iff,
    FilterSyntax.readCondition_eq_equals_iff noDates, readScalar_shown_iff named,
    FilterSyntax.isPlain_iff, and_assoc]

/-- **Facet values are filter values, if they are plain and known.** Take a parameter whose values
are texts or names of a vocabulary, and a catalog that leaves their names alone. Every value of its
facets is the name of a bucket that the engine reported. Used as the only filter value of the
parameter, the name compiles to the one statement that the field has it, exactly if it does not
begin with the mark of excluded values, cannot be read as a range, and, in a vocabulary, its indexed
value stands for a name. Filter values have no way to escape marks and ranges. -/
theorem drillDown_iff {compiler : SearchCompiler P} {parameter : P} {field : String}
    (mapped : compiler.catalog.fieldFor parameter = some field)
    (notSpatial : compiler.catalog.isSpatialParameter parameter = false)
    (notDate : compiler.catalog.isDateField field = false)
    (named : (SearchParameter.valueType parameter).HasNames)
    (shows : compiler.catalog.ShowsNames parameter) :
    (∀ request aggregations facets, compiler.normalizer.facets request aggregations = .ok facets →
      ∀ facet ∈ facets, facet.parameter = parameter → ∀ count ∈ facet.counts,
        ∃ aggregation ∈ aggregations, ∃ buckets,
          compiler.normalizer.buckets (compiler.normalizer.fieldOf aggregation.1) aggregation.2 =
            .ok buckets ∧
          ∃ bucket ∈ buckets, count = compiler.normalizer.facetCount parameter bucket) ∧
    ∀ bucket,
      compiler.Selects parameter field (compiler.normalizer.facetCount parameter bucket).name ↔
        compiler.settings.filterSyntax.IsPlain
            (compiler.normalizer.facetCount parameter bucket).name ∧
          (SearchParameter.valueType parameter).Knows bucket.key.asText := by
  constructor
  · intro request aggregations facets found facet member ofParameter count counted
    subst ofParameter
    exact ResponseNormalizer.exists_bucket_of_mem_counts found member counted
  · intro bucket
    have name : (compiler.normalizer.facetCount parameter bucket).name =
        (SearchParameter.valueType parameter).shown bucket.key.asText := shows bucket.key.asText
    rw [name]
    exact selects_shown_iff mapped notSpatial notDate rfl named bucket.key.asText

end SearchCompiler

/-! ## Observations of species -/

namespace Observations

/-- What an observation is based on, indexed by position. -/
def basis : DeclaredParameter :=
  ⟨"BASIS_OF_RECORD", .enumeration ["HUMAN_OBSERVATION", "PRESERVED_SPECIMEN"]⟩

def drilled : SearchCompiler DeclaredParameter where
  catalog := (CatalogTable.ofDeclarations
    [.field country "country", .field basis "basisOfRecord"]).catalog
  settings := {}

theorem drilled_showsNames (parameter : DeclaredParameter) :
    drilled.catalog.ShowsNames parameter := by
  apply CatalogTable.showsNames_ofDeclarations
  intro shown member
  simp at member

theorem drillDown_iff_basis :
    drilled.normalizer.facets { facets := [basis, country] }
        [("basisOfRecord", .terms [⟨.integer 1, 5⟩]), ("country", .terms [⟨.text "DK", 7⟩])] =
      .ok [⟨basis, [⟨"PRESERVED_SPECIMEN", 5⟩]⟩, ⟨country, [⟨"DK", 7⟩]⟩] ∧
    drilled.parameterFilter basis (.ofList ["PRESERVED_SPECIMEN"]) =
      .ok (some (.predicate (.equality "basisOfRecord" (.keyword "PRESERVED_SPECIMEN")))) ∧
    drilled.parameterFilter country (.ofList ["DK"]) =
      .ok (some (.predicate (.equality "country" (.text "DK")))) := by
  have plain (name : String) (unmarked : drilled.settings.filterSyntax.negated? name = none)
      (noRange : drilled.settings.filterSyntax.range.split? name = none) :
      drilled.settings.filterSyntax.IsPlain name :=
    FilterSyntax.isPlain_iff.2 ⟨unmarked, noRange⟩
  have apart : Vocabulary.ToldApart ["HUMAN_OBSERVATION", "PRESERVED_SPECIMEN"] :=
    ⟨by decide +kernel, by decide +kernel⟩
  have ofBasis := @SearchCompiler.drillDown_iff _ _ drilled basis "basisOfRecord" rfl
    (by decide +kernel) (by decide +kernel) apart (drilled_showsNames basis)
  have ofCountry := @SearchCompiler.drillDown_iff _ _ drilled country "country" rfl
    (by decide +kernel) (by decide +kernel) trivial (drilled_showsNames country)
  refine ⟨rfl, ?_, ?_⟩
  · exact (ofBasis.2 ⟨.integer 1, 5⟩).2
      ⟨plain _ (by decide +kernel) (by decide +kernel), .inl (by decide +kernel)⟩
  · exact (ofCountry.2 ⟨.text "DK", 7⟩).2
      ⟨plain _ (by decide +kernel) (by decide +kernel), trivial⟩

/-- Names that begin with the mark of excluded values, or can be read as ranges, are reported as
they are indexed, and mean something else as filter values. -/
theorem reported_names_misread :
    drilled.settings.validated = .ok drilled.settings ∧
      drilled.catalog.fieldFor country = some "country" ∧ drilled.catalog.ShowsNames country ∧
      drilled.catalog.isSpatialParameter country = false ∧
      drilled.catalog.isDateField "country" = false ∧
      drilled.normalizer.facets { facets := [country] }
          [("country", .terms [⟨.text "!DK", 5⟩, ⟨.text "1,2", 3⟩])] =
        .ok [⟨country, [⟨"!DK", 5⟩, ⟨"1,2", 3⟩]⟩] ∧
      drilled.parameterFilter country (.ofList ["!DK"]) =
        .ok (some (.not (.predicate (.equality "country" (.text "DK"))))) ∧
      ¬ drilled.Selects country "country" "!DK" ∧
      drilled.parameterFilter country (.ofList ["1,2"]) =
        .ok (some (.predicate (.range "country" (some (.text "1")) (some (.text "2"))))) ∧
      ¬ drilled.Selects country "country" "1,2" := by
  have excluded : drilled.parameterFilter country (.ofList ["!DK"]) =
      .ok (some (.not (.predicate (.equality "country" (.text "DK"))))) := rfl
  have ranged : drilled.parameterFilter country (.ofList ["1,2"]) =
      .ok (some (.predicate (.range "country" (some (.text "1")) (some (.text "2"))))) := rfl
  refine ⟨by decide +kernel, rfl, drilled_showsNames country, by decide +kernel, by decide +kernel,
    rfl, excluded, ?_, ranged, ?_⟩
  · intro selects
    rw [SearchCompiler.Selects, excluded] at selects
    cases selects
  · intro selects
    rw [SearchCompiler.Selects, ranged] at selects
    cases selects

end Observations

end FacetedSearch
