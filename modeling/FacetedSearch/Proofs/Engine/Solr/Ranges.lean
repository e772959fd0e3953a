import FacetedSearch.Proofs.Engine.Solr.Expressions
import FacetedSearch.Proofs.Facet.DrillDown
import FacetedSearch.Proofs.Filter.DateRanges
import FacetedSearch.Proofs.Filter.RangeGrammar

/-!
Contract: ranges in filter expressions under the usual settings.

Owns:
- `IsUnbracketed`, some characters without brackets, and `IsTokenRange`, the statement that a field
  lies between two such texts without blanks;
- `isTokenRange_iff`: a range is written so exactly if there are no blanks in its bounds;
- `IsSpacedMoment`, a partial date with its time of day behind a space, and `endForm_cases`: such
  dates are the only ends of ranges with a blank;
- `range_mem_predicates_iff`: the ranges of a tree are those of its selections;
- `ranges_are_tokens_iff`: a range is written as a field between two tokens unless the parameter is
  a free text and a bound of the range is such a date.

Bounds are written as they are. Numbers and days are printed from their values, free texts are
copied from the raw value, where a partial date may have a space in it.

Does not own: how ranges are read by the engine.
-/

namespace FacetedSearch

open Calendar Text

/-! ## Tokens -/

namespace Solr

/-- The characters that open and close groups and ranges. -/
def brackets : List Char :=
  ['[', ']', '(', ')', '\x7b', '\x7d']

/-- Some characters, none of which is a bracket. -/
structure IsUnbracketed (text : List Char) : Prop where
  notEmpty : text ≠ []
  each : ∀ c ∈ text, c ∉ brackets

/-- A text without blanks. -/
def IsVisible (text : List Char) : Prop :=
  ∀ c ∈ text, isBlank c = false

/-- Whether a text states that a field lies between two bounds, each of which is one token without
blanks and brackets. -/
def IsTokenRange (field : String) (text : List Char) : Prop :=
  ∃ lower upper, IsUnbracketed lower ∧ IsVisible lower ∧ IsUnbracketed upper ∧ IsVisible upper ∧
    text = rangeChars field.toList lower upper

theorem isVisible_iff_countP {text : List Char} : IsVisible text ↔ text.countP isBlank = 0 := by
  rw [List.countP_eq_zero]
  simp [IsVisible]

/-- Blanks in a bound cannot be taken for those around the word between the bounds: there are two
of the latter. -/
theorem isTokenRange_iff {field : String} {lower upper : List Char}
    (isLower : IsUnbracketed lower) (isUpper : IsUnbracketed upper) :
    IsTokenRange field (rangeChars field.toList lower upper) ↔ IsVisible lower ∧ IsVisible upper := by
  constructor
  · rintro ⟨first, second, -, firstVisible, -, secondVisible, same⟩
    have blanks := congrArg (List.countP isBlank) same
    simp only [rangeChars, List.countP_append] at blanks
    rw [isVisible_iff_countP] at firstVisible secondVisible
    rw [isVisible_iff_countP, isVisible_iff_countP]
    omega
  · rintro ⟨lowerVisible, upperVisible⟩
    exact ⟨lower, upper, isLower, lowerVisible, isUpper, upperVisible, rfl⟩

end Solr

/-! ## Ends of ranges -/

/-- A partial date with a time of day behind a space. -/
def IsSpacedMoment (text : List Char) : Prop :=
  (∃ parts : DateParts, parts.Form isDecimalDigit text) ∧ ' ' ∈ text

theorem IsSpacedMoment.not_isVisible {text : List Char} (spaced : IsSpacedMoment text) :
    ¬ Solr.IsVisible text := by
  intro visible
  exact absurd (visible ' ' spaced.2) (by decide)

theorem not_mem_brackets_of_isBoundCharacter {c : Char} (character : IsBoundCharacter c) :
    c ∉ Solr.brackets := by
  have apart : ∀ bracket ∈ Solr.brackets, ¬ IsBoundCharacter bracket :=
    forall_mem_of_all (by decide)
  exact fun isBracket => apart c isBracket character

/-- The space is the only blank among the characters of bounds. -/
theorem isBlank_of_isBoundCharacter {c : Char} (character : IsBoundCharacter c)
    (notSpace : c ≠ ' ') : isBlank c = false := by
  have marks : ∀ mark ∈ boundMarks, mark ≠ ' ' → isBlank mark = false :=
    forall_mem_of_all (by decide)
  rcases character with isDigit | isMark
  · exact isBlank_of_isDecimalDigit isDigit
  · exact marks c isMark notSpace

theorem BoundForm.isUnbracketed {text : List Char} (form : BoundForm text) :
    Solr.IsUnbracketed text where
  notEmpty := form.ne_nil
  each := fun c member => not_mem_brackets_of_isBoundCharacter (form.characters c member)

theorem BoundForm.isVisible_iff {text : List Char} (form : BoundForm text) :
    Solr.IsVisible text ↔ ¬ IsSpacedMoment text := by
  constructor
  · intro visible spaced
    exact spaced.not_isVisible visible
  · intro notSpaced c member
    cases form with
    | number form =>
        have matched := Pattern.matches_numberBound_iff.2 form
        exact Pattern.visible_numberBound.isBlank_eq_false matched c member
    | date form hasMonth =>
        apply isBlank_of_isBoundCharacter (.of_date (form.characters c member))
        rintro rfl
        exact notSpaced ⟨⟨_, form⟩, member⟩

/-- An end of a range has no brackets, and a blank only in a moment behind a space. -/
theorem endForm_cases {text : List Char} (form : usualSyntax.range.EndForm text) :
    Solr.IsUnbracketed text ∧ (Solr.IsVisible text ↔ ¬ IsSpacedMoment text) := by
  rcases form with rfl | form
  · have visible : Solr.IsVisible usualSyntax.range.wildcard.toList :=
      forall_mem_of_all (by decide)
    refine ⟨⟨by decide, forall_mem_of_all (by decide)⟩, iff_of_true visible ?_⟩
    exact fun spaced => spaced.not_isVisible visible
  · exact ⟨form.isUnbracketed, form.isVisible_iff⟩

/-! ## Bounds as they are written -/

open Solr in
/-- Numbers, days and open bounds are written without blanks and brackets. -/
theorem isUnbracketed_bare (side : BoundSide) {bound : Option TypedValue}
    (bare : ∀ value ∈ bound, isQuoted value = false) :
    IsUnbracketed (boundOrWildcard side bound) ∧ IsVisible (boundOrWildcard side bound) := by
  cases bound with
  | none =>
      rw [boundOrWildcard]
      exact ⟨⟨by decide, forall_mem_of_all (by decide)⟩, forall_mem_of_all (by decide)⟩
  | some value =>
      have isBare := isBareText_bound side (bare value rfl)
      refine ⟨⟨isBare.notEmpty, fun c member => ?_⟩, fun c member => ?_⟩
      · have apart : ∀ bracket ∈ brackets, ¬ IsValueCharacter bracket :=
          forall_mem_of_all (by decide)
        exact fun isBracket => apart c isBracket (isBare.each c member)
      · exact (isBare.each c member).isBlank_eq_false

/-- A bound of a free text is written as it was cut out of the raw value. -/
theorem boundOrWildcard_of_readBound {side : Solr.BoundSide} {day : Period → Date} {token : String}
    {bound : Option TypedValue} (read : usualSyntax.readBound .text day token = .ok bound) :
    Solr.boundOrWildcard side bound = token.toList := by
  unfold FilterSyntax.readBound at read
  split at read
  · rename_i isWildcard
    cases read
    rw [isWildcard, Solr.boundOrWildcard]
    decide
  · cases read
    rfl

/-- Whether a raw value is cut into bounds of which one is a moment behind a space. -/
def HasSpacedMoment (raw : String) : Prop :=
  ∃ lower upper, usualSyntax.range.split? raw = some (lower, upper) ∧
    (IsSpacedMoment lower.toList ∨ IsSpacedMoment upper.toList)

namespace FilterSyntax

variable {type : ValueType} {raw : String} {lower upper : Option TypedValue}

/-- A free text states a range exactly as it is cut. -/
theorem exists_split?_of_readCondition
    (read : usualSyntax.readCondition .text raw = .ok (.between lower upper)) :
    ∃ left right, usualSyntax.range.split? raw = some (left, right) ∧
      Solr.boundOrWildcard .lower lower = left.toList ∧
      Solr.boundOrWildcard .upper upper = right.toList := by
  unfold readCondition at read
  split at read
  · rename_i left right cut
    obtain ⟨first, last, isFirst, isLast, same⟩ := (readRange_eq_ok_iff rfl).1 read
    cases same
    exact ⟨left, right, cut, boundOrWildcard_of_readBound isFirst,
      boundOrWildcard_of_readBound isLast⟩
  · cases read

theorem range_text_iff (read : usualSyntax.readCondition .text raw = .ok (.between lower upper)) :
    (Solr.IsUnbracketed (Solr.boundOrWildcard .lower lower) ∧
      Solr.IsUnbracketed (Solr.boundOrWildcard .upper upper)) ∧
    (Solr.IsVisible (Solr.boundOrWildcard .lower lower) ∧
        Solr.IsVisible (Solr.boundOrWildcard .upper upper) ↔ ¬ HasSpacedMoment raw) := by
  obtain ⟨left, right, cut, isLower, isUpper⟩ := exists_split?_of_readCondition read
  have reads := RangeSyntax.reads_of_split?_eq_some cut
  obtain ⟨_, _, _, _, -, -, -, -, leftMatches, rightMatches, -⟩ := reads
  obtain ⟨leftUnbracketed, leftVisible⟩ := endForm_cases (matches_bound_iff.1 leftMatches)
  obtain ⟨rightUnbracketed, rightVisible⟩ := endForm_cases (matches_bound_iff.1 rightMatches)
  rw [isLower, isUpper, leftVisible, rightVisible]
  refine ⟨⟨leftUnbracketed, rightUnbracketed⟩, ?_⟩
  simp [HasSpacedMoment, cut, not_or]

/-- Bounds of all other types are numbers and days. -/
theorem isQuoted_of_readCondition (notText : type ≠ .text)
    (read : usualSyntax.readCondition type raw = .ok (.between lower upper)) :
    (∀ bound ∈ lower, Solr.isQuoted bound = false) ∧
      ∀ bound ∈ upper, Solr.isQuoted bound = false := by
  obtain ⟨supported, lowerType, upperType⟩ := between_of_readCondition read
  have noText {bound : TypedValue} (hasType : bound.HasType type) (text : String) :
      bound ≠ .text text := by
    rintro rfl
    cases type with
    | text => exact notText rfl
    | _ => cases hasType
  constructor
  · intro bound isLower
    exact isQuoted_of_hasType supported (lowerType bound isLower) (noText (lowerType bound isLower))
  · intro bound isUpper
    exact isQuoted_of_hasType supported (upperType bound isUpper) (noText (upperType bound isUpper))

/-- The bounds of a range have no brackets, and no blanks either unless the type is free text and
one of them is a moment behind a space. -/
theorem bounds_of_readCondition
    (read : usualSyntax.readCondition type raw = .ok (.between lower upper)) :
    (Solr.IsUnbracketed (Solr.boundOrWildcard .lower lower) ∧
      Solr.IsUnbracketed (Solr.boundOrWildcard .upper upper)) ∧
    (Solr.IsVisible (Solr.boundOrWildcard .lower lower) ∧
        Solr.IsVisible (Solr.boundOrWildcard .upper upper) ↔
      ¬ (type = .text ∧ HasSpacedMoment raw)) := by
  by_cases isText : type = .text
  · subst isText
    simpa using range_text_iff read
  · obtain ⟨lowerBare, upperBare⟩ := isQuoted_of_readCondition isText read
    have lowerWritten := isUnbracketed_bare .lower lowerBare
    have upperWritten := isUnbracketed_bare .upper upperBare
    refine ⟨⟨lowerWritten.1, upperWritten.1⟩, ?_⟩
    exact iff_of_true ⟨lowerWritten.2, upperWritten.2⟩ fun both => isText both.1

end FilterSyntax

/-! ## Ranges of trees -/

section Trees

variable {field : String} {lower upper : Option TypedValue}

theorem range_mem_conditionNode {conditions : List Condition} {node : QueryNode}
    (found : conditionNode field conditions = some node)
    (member : .between lower upper ∈ conditions) :
    .range field lower upper ∈ node.predicates := by
  rw [QueryNode.predicates_of_anyOf found, QueryNode.mem_predicatesOfAll]
  have isPart : .predicate (.range field lower upper) ∈ conditions.filterMap (rangeNode? field) :=
    List.mem_filterMap.2 ⟨_, member, rfl⟩
  refine ⟨_, List.mem_append_left _ (List.mem_append_right _ isPart), ?_⟩
  rw [QueryNode.predicates]
  exact List.mem_singleton.2 rfl

/-- The ranges of a tree are those of its selections, selected or excluded. -/
theorem range_mem_predicates_iff {selections : List Selection} {tree : QueryNode}
    (found : selectionNode field selections = some tree) :
    .range field lower upper ∈ tree.predicates ↔
      ∃ selection ∈ selections, selection.condition = .between lower upper := by
  constructor
  · intro member
    have stated := (hasShape_of_selectionNode found).stated _ member
    cases stated with
    | range inConditions => exact List.mem_map.1 inConditions
  · rintro ⟨selection, inSelections, isRange⟩
    have inConditions : .between lower upper ∈ conditionsOf selections selection.negated := by
      rw [← isRange]
      exact List.mem_map_of_mem (List.mem_filter.2 ⟨inSelections, beq_self_eq_true _⟩)
    have inPart {negated : Bool} {part : QueryNode} (kind : selection.negated = negated)
        (isPart : conditionNode field (conditionsOf selections negated) = some part) :
        .range field lower upper ∈ part.predicates := by
      rw [kind] at inConditions
      exact range_mem_conditionNode isPart inConditions
    have notNone {negated : Bool} (kind : selection.negated = negated)
        (none : conditionNode field (conditionsOf selections negated) = none) : False := by
      rw [conditionNode_eq_none_iff] at none
      rw [kind, none] at inConditions
      exact List.not_mem_nil inConditions
    cases combines_of_selectionNode found with
    | positive isSelected noneExcluded =>
        cases kind : selection.negated with
        | false => exact inPart kind isSelected
        | true => exact (notNone kind noneExcluded).elim
    | negative noneSelected isExcluded =>
        rw [QueryNode.predicates]
        cases kind : selection.negated with
        | false => exact (notNone kind noneSelected).elim
        | true => exact inPart kind isExcluded
    | both isSelected isExcluded =>
        simp only [QueryNode.predicates, QueryNode.predicatesOfAll, List.append_nil,
          List.mem_append]
        cases kind : selection.negated with
        | false => exact .inl (inPart kind isSelected)
        | true => exact .inr (inPart kind isExcluded)

end Trees

/-! ## Ranges of parameters -/

variable {P : Type} [SearchParameter P]

namespace SearchCompiler

variable {compiler : SearchCompiler P} {parameter : P} {field raw : String} {values : RawValues}
  {tree : QueryNode} {lower upper : Option TypedValue}

/-- Whether a raw value of a parameter with a field is turned into a range, selected or excluded. -/
def StatesRange (compiler : SearchCompiler P) (parameter : P) (field raw : String)
    (lower upper : Option TypedValue) : Prop :=
  ∃ negated, compiler.readSelection parameter field raw = .ok ⟨negated, .between lower upper⟩

theorem StatesRange.readCondition (usual : compiler.settings.filterSyntax = usualSyntax)
    (states : compiler.StatesRange parameter field raw lower upper) :
    usualSyntax.readCondition (compiler.fieldType parameter field) (compiler.unmarked raw) =
      .ok (.between lower upper) := by
  obtain ⟨negated, read⟩ := states
  have condition := (of_readSelection_eq_ok read).2
  unfold SearchCompiler.readCondition at condition
  split at condition
  · obtain ⟨shape, -, isRange⟩ := map_eq_ok_iff.1 condition
    cases isRange
  · rwa [usual] at condition

/-- The expression of a single raw value that is turned into a range. -/
theorem filterQuery_singleton (mapped : compiler.catalog.fieldFor parameter = some field)
    (compiled : compiler.parameterFilter parameter values = .ok (some tree))
    (single : values.values = [raw])
    (states : compiler.StatesRange parameter field raw lower upper) :
    Solr.filterQuery tree = (if compiler.Excludes raw then ['-'] else []) ++
      Solr.predicateQuery (.range field lower upper) := by
  obtain ⟨negated, read⟩ := states
  have mark := (of_readSelection_eq_ok read).1
  have isTree : selectionNode field [⟨negated, .between lower upper⟩] = some tree := by
    unfold parameterFilter at compiled
    rw [mapped] at compiled
    dsimp only at compiled
    rw [single, mapM_cons_eq, read] at compiled
    exact Except.ok.inj compiled
  rw [selectionNode_singleton, Option.some.injEq] at isTree
  subst isTree
  cases negated with
  | false =>
      have selected : ¬ compiler.Excludes raw := mt mark.2 Bool.false_ne_true
      rw [if_neg selected, if_neg Bool.false_ne_true, Solr.filterQuery]
      rfl
  | true =>
      rw [if_pos (mark.1 rfl), if_pos rfl, Solr.filterQuery, Solr.filterQuery]
      rfl

/-- **Ranges are written as a field between two tokens, unless a free text has a space in them.**
The ranges in the tree of a parameter are those that its raw values are turned into, under the usual
settings. Each is written as the field with two bounds between brackets, which are not empty and
have no brackets in them. Both are tokens without blanks exactly if the parameter is no free text or
neither bound is a date with its time of day behind a space. The expression of a single such value
is its range, with a minus sign in front if the value is excluded. -/
theorem ranges_are_tokens_iff (usual : compiler.settings.filterSyntax = usualSyntax)
    (compiled : compiler.parameterFilter parameter values = .ok (some tree)) :
    ∃ field, compiler.catalog.fieldFor parameter = some field ∧
      (∀ lower upper, .range field lower upper ∈ tree.predicates ↔
        ∃ raw ∈ values.values, compiler.StatesRange parameter field raw lower upper) ∧
      ∀ raw ∈ values.values, ∀ lower upper,
        compiler.StatesRange parameter field raw lower upper →
          (∃ first second, Solr.IsUnbracketed first ∧ Solr.IsUnbracketed second ∧
            Solr.predicateQuery (.range field lower upper) =
              Solr.rangeChars field.toList first second) ∧
          (Solr.IsTokenRange field (Solr.predicateQuery (.range field lower upper)) ↔
            ¬ (compiler.fieldType parameter field = .text ∧
              HasSpacedMoment (compiler.unmarked raw))) ∧
          (values.values = [raw] → Solr.filterQuery tree =
            (if compiler.Excludes raw then ['-'] else []) ++
              Solr.predicateQuery (.range field lower upper)) := by
  have split := compiled
  unfold parameterFilter at split
  cases mapped : compiler.catalog.fieldFor parameter with
  | none =>
      rw [mapped] at split
      cases split
  | some field =>
      rw [mapped] at split
      obtain ⟨selections, traversed, found⟩ := map_eq_ok_iff.1 split
      refine ⟨field, rfl, fun lower upper => ?_, fun raw member lower upper states => ?_⟩
      · rw [range_mem_predicates_iff found]
        apply exists_mapM_iff traversed
        intro raw selection read
        constructor
        · intro isRange
          exact ⟨selection.negated, by rw [read, ← isRange]⟩
        · rintro ⟨negated, isRange⟩
          rw [read, Except.ok.injEq] at isRange
          rw [isRange]
      · obtain ⟨⟨isLower, isUpper⟩, visible⟩ :=
          FilterSyntax.bounds_of_readCondition (states.readCondition usual)
        refine ⟨⟨_, _, isLower, isUpper, rfl⟩, ?_, fun single => ?_⟩
        · exact (Solr.isTokenRange_iff isLower isUpper).trans visible
        · exact filterQuery_singleton mapped compiled single states

end SearchCompiler

/-! ## Observations of species -/

namespace Observations

/-- All years but those from 1990 on. -/
def excludedYears : RawValues :=
  .ofList ["!1990,*"]

/-- An excluded range of integers with an open end. -/
theorem ranges_are_tokens_iff_excludedYears :
    ∃ tree, compiler.parameterFilter year excludedYears = .ok (some tree) ∧
      Solr.IsTokenRange "year" "year:[1990 TO *]".toList ∧
      Solr.filterQuery tree = "-year:[1990 TO *]".toList := by
  have compiled : compiler.parameterFilter year excludedYears =
      .ok (some (.not (.predicate (.range "year" (some (.integer 1990)) none)))) := rfl
  have isYear : compiler.catalog.fieldFor year = some "year" := by decide +kernel
  obtain ⟨field, mapped, -, written⟩ := SearchCompiler.ranges_are_tokens_iff rfl compiled
  obtain rfl := Option.some.inj (isYear.symm.trans mapped)
  have states : compiler.StatesRange year "year" "!1990,*" (some (.integer 1990)) none :=
    ⟨true, rfl⟩
  obtain ⟨-, tokens, alone⟩ := written "!1990,*" (List.mem_singleton.2 rfl) _ _ states
  have notText : compiler.fieldType year "year" ≠ .text := by decide +kernel
  refine ⟨_, compiled, ?_, ?_⟩
  · exact tokens.2 fun both => notText both.1
  · rw [alone rfl]
    decide +kernel

/-- A range of texts from a moment behind a space on. -/
def momentOnwards : RawValues :=
  .ofList ["2000-01-02 10:30,*"]

/-- The space of a date in a range of texts stands between the brackets. -/
theorem space_in_bound :
    compiler.parameterFilter country momentOnwards =
        .ok (some (.predicate (.range "country" (some (.text "2000-01-02 10:30")) none))) ∧
      Solr.filterQuery (.predicate (.range "country" (some (.text "2000-01-02 10:30")) none)) =
        "country:[2000-01-02 10:30 TO *]".toList ∧
      ¬ Solr.IsTokenRange "country" "country:[2000-01-02 10:30 TO *]".toList := by
  refine ⟨rfl, by decide +kernel, ?_⟩
  have isLower : Solr.IsUnbracketed "2000-01-02 10:30".toList :=
    ⟨by decide, forall_mem_of_all (by decide)⟩
  have isUpper : Solr.IsUnbracketed "*".toList := ⟨by decide, forall_mem_of_all (by decide)⟩
  have same : "country:[2000-01-02 10:30 TO *]".toList =
      Solr.rangeChars "country".toList "2000-01-02 10:30".toList "*".toList := by decide +kernel
  rw [same, Solr.isTokenRange_iff isLower isUpper]
  intro visible
  exact absurd (visible.1 ' ' (by decide)) (by decide)

end Observations

end FacetedSearch
