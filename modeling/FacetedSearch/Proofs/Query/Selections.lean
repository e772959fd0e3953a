import FacetedSearch.Proofs.Facet.Split
import FacetedSearch.Proofs.Outcome
import FacetedSearch.Proofs.Query.Meaning
import FacetedSearch.Proofs.Query.Trees

/-!
Contract: what the tree of a parameter says about a document.

Owns:
- `QueryNode.Extensional`, truth that equal values cannot be told apart by;
- `holds_of_conditionNode` and `holds_of_selectionNode`, the truth of trees of conditions and of
  selections in terms of the single ones;
- `SearchCompiler.Excludes` and `SearchCompiler.Describes`, what a single raw value says;
- `parameterFilter_holds_iff`: the tree of a parameter is true of a document exactly if one of the
  selected raw values describes it, if any is selected, and none of the excluded ones does.

The trees group conditions by kind and drop values that are equal to earlier ones. Both are
invisible to extensional truth, whatever else it is.

Does not own: which documents a single statement is true of.
-/

namespace FacetedSearch

/-! ## Statements -/

/-- The statement of a condition about a field. -/
def Condition.statement (field : String) : Condition → FilterPredicate
  | .equals value => .equality field value
  | .between lower upper => .range field lower upper
  | .inside shape => .spatial field shape

/-- Truth for which a field has one of some values if it has a single one of them, and with a value
every equal one. -/
structure QueryNode.Extensional (truth : FilterPredicate → Prop) : Prop where
  equal : ∀ field left right, TypedValue.equal left right = true →
    (truth (.equality field left) ↔ truth (.equality field right))
  multi : ∀ field values,
    truth (.multiEquality field values) ↔ ∃ value ∈ values, truth (.equality field value)

/-! ## Values -/

/-- The values of some conditions with those of one more. -/
def addDistinct (values : List TypedValue) (condition : Condition) : List TypedValue :=
  match condition with
  | .equals value =>
      if values.any fun present => present.equal value then values else values ++ [value]
  | _ => values

theorem distinctValues_eq_foldl (conditions : List Condition) :
    distinctValues conditions = conditions.foldl addDistinct [] :=
  rfl

/-- A property that equal values share is had by one of some values exactly if it was had by one of
those before or by the added one. -/
theorem exists_addDistinct_iff {property : TypedValue → Prop}
    (respects : ∀ left right, TypedValue.equal left right = true →
      (property left ↔ property right))
    (values : List TypedValue) (condition : Condition) :
    (∃ value ∈ addDistinct values condition, property value) ↔
      (∃ value ∈ values, property value) ∨
        ∃ value, condition = .equals value ∧ property value := by
  cases condition with
  | equals added =>
      simp only [addDistinct, Condition.equals.injEq, exists_eq_left']
      split
      · rename_i present
        obtain ⟨earlier, member, same⟩ := List.any_eq_true.1 present
        constructor
        · exact .inl
        · rintro (before | has)
          · exact before
          · exact ⟨earlier, member, (respects earlier added same).2 has⟩
      · simp only [List.mem_append, List.mem_singleton, or_and_right, exists_or, exists_eq_left]
  | between lower upper => simp [addDistinct]
  | inside shape => simp [addDistinct]

theorem exists_distinctValues_iff {property : TypedValue → Prop}
    (respects : ∀ left right, TypedValue.equal left right = true →
      (property left ↔ property right))
    (conditions : List Condition) :
    (∃ value ∈ distinctValues conditions, property value) ↔
      ∃ value, .equals value ∈ conditions ∧ property value := by
  -- The fold starts without values, but its steps do not: the start has to vary.
  have accumulated : ∀ start : List TypedValue,
      (∃ value ∈ conditions.foldl addDistinct start, property value) ↔
        (∃ value ∈ start, property value) ∨
          ∃ value, .equals value ∈ conditions ∧ property value := by
    induction conditions with
    | nil => simp
    | cons condition rest inductionHypothesis =>
        intro start
        rw [List.foldl_cons, inductionHypothesis, exists_addDistinct_iff respects, or_assoc]
        simp only [List.mem_cons, or_and_right, exists_or, eq_comm]
  simpa [distinctValues_eq_foldl] using accumulated []

/-! ## Trees of conditions -/

namespace QueryNode

theorem anyOf_eq_none_iff {nodes : List QueryNode} : anyOf nodes = none ↔ nodes = [] := by
  match nodes with
  | [] => simp [anyOf]
  | [_] => simp [anyOf]
  | _ :: _ :: _ => simp [anyOf]

theorem holds_of_anyOf {truth : FilterPredicate → Prop} {nodes : List QueryNode}
    {tree : QueryNode} (found : anyOf nodes = some tree) :
    tree.Holds truth ↔ ∃ node ∈ nodes, node.Holds truth := by
  match nodes, found with
  | [_], rfl => simp
  | first :: second :: rest, rfl => exact someHold_iff truth (first :: second :: rest)

end QueryNode

theorem valueNodes_eq_nil_iff {field : String} {values : List TypedValue} :
    valueNodes field values = [] ↔ values = [] := by
  match values with
  | [] => simp [valueNodes]
  | [_] => simp [valueNodes]
  | _ :: _ :: _ => simp [valueNodes]

theorem exists_valueNodes_holds_iff {truth : FilterPredicate → Prop}
    (extensional : QueryNode.Extensional truth) (field : String) (values : List TypedValue) :
    (∃ node ∈ valueNodes field values, node.Holds truth) ↔
      ∃ value ∈ values, truth (.equality field value) := by
  match values with
  | [] => simp [valueNodes]
  | [_] => simp [valueNodes, QueryNode.Holds]
  | first :: second :: rest =>
      simpa [valueNodes, QueryNode.Holds] using extensional.multi field (first :: second :: rest)

theorem rangeNode?_eq_some_iff {field : String} {condition : Condition} {node : QueryNode} :
    rangeNode? field condition = some node ↔
      ∃ lower upper, condition = .between lower upper ∧
        node = .predicate (condition.statement field) := by
  cases condition <;> simp [rangeNode?, Condition.statement, eq_comm]

theorem shapeNode?_eq_some_iff {field : String} {condition : Condition} {node : QueryNode} :
    shapeNode? field condition = some node ↔
      ∃ shape, condition = .inside shape ∧ node = .predicate (condition.statement field) := by
  cases condition <;> simp [shapeNode?, Condition.statement, eq_comm]

theorem conditionNode_eq_none_iff {field : String} {conditions : List Condition} :
    conditionNode field conditions = none ↔ conditions = [] := by
  unfold conditionNode
  rw [QueryNode.anyOf_eq_none_iff, List.append_eq_nil_iff, List.append_eq_nil_iff,
    valueNodes_eq_nil_iff, List.filterMap_eq_nil_iff, List.filterMap_eq_nil_iff]
  constructor
  · rintro ⟨⟨noValue, noRange⟩, noShape⟩
    refine List.eq_nil_iff_forall_not_mem.2 fun condition member => ?_
    cases condition with
    | equals value =>
        obtain ⟨found, inValues, -⟩ :=
          (@exists_distinctValues_iff (fun _ => True) (fun _ _ _ => Iff.rfl) _).2
            ⟨value, member, trivial⟩
        rw [noValue] at inValues
        cases inValues
    | between lower upper => cases noRange _ member
    | inside shape => cases noShape _ member
  · rintro rfl
    exact ⟨⟨rfl, by simp⟩, by simp⟩

/-- A tree of conditions is true exactly if the statement of one of them is. -/
theorem holds_of_conditionNode {truth : FilterPredicate → Prop}
    (extensional : QueryNode.Extensional truth) {field : String} {conditions : List Condition}
    {tree : QueryNode} (found : conditionNode field conditions = some tree) :
    tree.Holds truth ↔ ∃ condition ∈ conditions, truth (condition.statement field) := by
  rw [QueryNode.holds_of_anyOf found]
  simp only [List.mem_append, or_and_right, exists_or]
  rw [exists_valueNodes_holds_iff extensional, exists_distinctValues_iff (extensional.equal field)]
  simp only [List.mem_filterMap, rangeNode?_eq_some_iff, shapeNode?_eq_some_iff]
  constructor
  · rintro ((⟨value, member, holds⟩ | ⟨node, ⟨condition, member, _, _, _, rfl⟩, holds⟩) |
      ⟨node, ⟨condition, member, _, _, rfl⟩, holds⟩)
    · exact ⟨_, member, holds⟩
    · exact ⟨condition, member, holds⟩
    · exact ⟨condition, member, holds⟩
  · rintro ⟨condition, member, holds⟩
    cases condition with
    | equals value => exact .inl (.inl ⟨value, member, holds⟩)
    | between lower upper =>
        exact .inl (.inr ⟨_, ⟨_, member, lower, upper, rfl, rfl⟩, holds⟩)
    | inside shape => exact .inr ⟨_, ⟨_, member, shape, rfl, rfl⟩, holds⟩

/-! ## Trees of selections -/

/-- Whether a selection of some kind, selected or excluded, has a true statement about a field. -/
def SomeTrue (truth : FilterPredicate → Prop) (field : String) (selections : List Selection)
    (negated : Bool) : Prop :=
  ∃ selection ∈ selections, selection.negated = negated ∧
    truth (selection.condition.statement field)

theorem holds_of_conditionsOf {truth : FilterPredicate → Prop}
    (extensional : QueryNode.Extensional truth) {field : String} {selections : List Selection}
    {negated : Bool} {tree : QueryNode}
    (found : conditionNode field (conditionsOf selections negated) = some tree) :
    tree.Holds truth ↔ SomeTrue truth field selections negated := by
  rw [holds_of_conditionNode extensional found]
  simp [conditionsOf, SomeTrue, and_assoc]

theorem selectionNode_eq_none_iff {field : String} {selections : List Selection} :
    selectionNode field selections = none ↔ selections = [] := by
  rw [selectionNode_eq]
  constructor
  · intro noTree
    split at noTree
    · cases noTree
    · cases noTree
    · cases noTree
    · rename_i noneSelected noneExcluded
      rw [conditionNode_eq_none_iff, conditionsOf_eq_nil_iff] at noneSelected noneExcluded
      refine List.eq_nil_iff_forall_not_mem.2 fun selection member => ?_
      have negated := noneSelected selection member
      rw [noneExcluded selection member] at negated
      cases negated
  · rintro rfl
    rfl

/-- A tree of selections is true exactly if one of the selected conditions is, if there are any, and
none of the excluded ones. -/
theorem holds_of_selectionNode {truth : FilterPredicate → Prop}
    (extensional : QueryNode.Extensional truth) {field : String} {selections : List Selection}
    {tree : QueryNode} (found : selectionNode field selections = some tree) :
    tree.Holds truth ↔
      ((∀ selection ∈ selections, selection.negated = true) ∨
          SomeTrue truth field selections false) ∧
        ¬ SomeTrue truth field selections true := by
  have noneTrue : ∀ negated, conditionNode field (conditionsOf selections negated) = none →
      ¬ SomeTrue truth field selections negated := by
    rintro negated noTree ⟨selection, member, kind, -⟩
    rw [conditionNode_eq_none_iff, conditionsOf_eq_nil_iff] at noTree
    rw [noTree selection member] at kind
    cases negated <;> cases kind
  have someSelected : ∀ positive,
      conditionNode field (conditionsOf selections false) = some positive →
      ¬ ∀ selection ∈ selections, selection.negated = true := by
    intro positive selected allNegated
    rw [conditionNode_eq_none_iff.2 (conditionsOf_eq_nil_iff.2 allNegated)] at selected
    cases selected
  cases combines_of_selectionNode found with
  | positive selected noneExcluded =>
      rw [or_iff_right (someSelected _ selected), ← holds_of_conditionsOf extensional selected]
      exact (and_iff_left (noneTrue _ noneExcluded)).symm
  | negative noneSelected excluded =>
      have allNegated := conditionsOf_eq_nil_iff.1 (conditionNode_eq_none_iff.1 noneSelected)
      rw [← holds_of_conditionsOf extensional excluded]
      simpa [QueryNode.Holds] using fun _ => .inl allNegated
  | both selected excluded =>
      rw [or_iff_right (someSelected _ selected), ← holds_of_conditionsOf extensional selected,
        ← holds_of_conditionsOf extensional excluded]
      simp [QueryNode.Holds, QueryNode.AllHold]

/-! ## Raw values -/

variable {P : Type} [SearchParameter P]

namespace SearchCompiler

/-- Whether a raw value is excluded, as its mark says. -/
def Excludes (compiler : SearchCompiler P) (raw : String) : Prop :=
  (compiler.settings.filterSyntax.negated? raw).isSome = true

instance (compiler : SearchCompiler P) : DecidablePred compiler.Excludes := fun raw =>
  inferInstanceAs (Decidable ((compiler.settings.filterSyntax.negated? raw).isSome = true))

/-- A raw value without the mark of excluded ones. -/
def unmarked (compiler : SearchCompiler P) (raw : String) : String :=
  (compiler.settings.filterSyntax.negated? raw).getD raw

/-- The condition that a text without a mark states for a parameter with a field: a shape in its
normal form, or a value or a range of the type of the field. -/
def readCondition (compiler : SearchCompiler P) (parameter : P) (field text : String) :
    Except SearchError Condition :=
  if compiler.catalog.isSpatialParameter parameter then
    (Geometry.normalForm text).map .inside
  else
    compiler.settings.filterSyntax.readCondition (compiler.fieldType parameter field) text

/-- Whether a raw value, apart from its mark, is true of a document. -/
def Describes (compiler : SearchCompiler P) (truth : FilterPredicate → Prop) (parameter : P)
    (field raw : String) : Prop :=
  ∃ condition, compiler.readCondition parameter field (compiler.unmarked raw) = .ok condition ∧
    truth (condition.statement field)

theorem describes_iff {compiler : SearchCompiler P} {truth : FilterPredicate → Prop}
    {parameter : P} {field raw : String} {condition : Condition}
    (read : compiler.readCondition parameter field (compiler.unmarked raw) = .ok condition) :
    compiler.Describes truth parameter field raw ↔ truth (condition.statement field) := by
  simp [Describes, read]

/-- A selection has the mark and the condition of its raw value. -/
theorem of_readSelection_eq_ok {compiler : SearchCompiler P} {parameter : P} {field raw : String}
    {selection : Selection}
    (read : compiler.readSelection parameter field raw = .ok selection) :
    (selection.negated = true ↔ compiler.Excludes raw) ∧
      compiler.readCondition parameter field (compiler.unmarked raw) =
        .ok selection.condition := by
  unfold readSelection at read
  unfold readCondition Excludes unmarked
  split at read
  · rename_i spatial
    rw [if_pos spatial]
    unfold spatialSelection at read
    split at read
    · rename_i rest marked
      obtain ⟨shape, normal, rfl⟩ := map_eq_ok_iff.1 read
      simp [marked, normal, Except.map]
    · rename_i notMarked
      obtain ⟨shape, normal, rfl⟩ := map_eq_ok_iff.1 read
      simp [notMarked, normal, Except.map]
  · rename_i notSpatial
    rw [if_neg notSpatial]
    unfold FilterSyntax.readSelection at read
    split at read
    · rename_i rest marked
      split at read
      · cases read
      · obtain ⟨condition, isRead, rfl⟩ := map_eq_ok_iff.1 read
        simp [marked, isRead]
    · rename_i notMarked
      obtain ⟨condition, isRead, rfl⟩ := map_eq_ok_iff.1 read
      simp [notMarked, isRead]

/-- **The tree of a parameter means its raw values.** A parameter has no tree exactly if it has no
field or no raw value. Else the tree is true of a document exactly if one of the selected raw values
describes the document, if any is selected, and no excluded one does. -/
theorem parameterFilter_holds_iff {compiler : SearchCompiler P} {parameter : P}
    {values : RawValues} {found : Option QueryNode}
    (compiled : compiler.parameterFilter parameter values = .ok found) :
    (found = none ↔ compiler.catalog.fieldFor parameter = none ∨ values.values = []) ∧
    ∀ tree, found = some tree → ∃ field, compiler.catalog.fieldFor parameter = some field ∧
      ∀ truth, QueryNode.Extensional truth →
        (tree.Holds truth ↔
          ((∀ raw ∈ values.values, compiler.Excludes raw) ∨
              ∃ raw ∈ values.values, ¬ compiler.Excludes raw ∧
                compiler.Describes truth parameter field raw) ∧
            ∀ raw ∈ values.values, compiler.Excludes raw →
              ¬ compiler.Describes truth parameter field raw) := by
  unfold parameterFilter at compiled
  split at compiled
  · rename_i unmapped
    cases compiled
    simp [unmapped]
  · rename_i field mapped
    obtain ⟨selections, read, rfl⟩ := map_eq_ok_iff.1 compiled
    have sameLength := ((mapM_eq_ok_iff _ _ _).1 read).length_eq
    refine ⟨?_, fun tree isTree => ⟨field, mapped, fun truth extensional => ?_⟩⟩
    · rw [selectionNode_eq_none_iff, mapped, ← List.length_eq_zero_iff, ← sameLength,
        List.length_eq_zero_iff]
      simp
    · have someTrue : ∀ negated, SomeTrue truth field selections negated ↔
          ∃ raw ∈ values.values, (compiler.Excludes raw ↔ negated = true) ∧
            compiler.Describes truth parameter field raw := by
        intro negated
        refine exists_mapM_iff read fun raw selection isRead => ?_
        obtain ⟨mark, condition⟩ := of_readSelection_eq_ok isRead
        rw [describes_iff condition, ← mark, Bool.eq_iff_iff]
      have allExcluded : (∀ selection ∈ selections, selection.negated = true) ↔
          ∀ raw ∈ values.values, compiler.Excludes raw := by
        have someSelected : (∃ selection ∈ selections, ¬ selection.negated = true) ↔
            ∃ raw ∈ values.values, ¬ compiler.Excludes raw :=
          exists_mapM_iff read fun raw selection isRead =>
            not_congr (of_readSelection_eq_ok isRead).1
        simpa using not_congr someSelected
      rw [holds_of_selectionNode extensional isTree, allExcluded, someTrue, someTrue]
      simp

end SearchCompiler

/-! ## Observations of species -/

namespace Observations

/-- A single year and a range of years without those of another range. -/
def years : RawValues :=
  .ofList ["2000,2010", "1990", "!2003,2005"]

/-- The statements that are true of a year. -/
def trueOfYear (observed : Int32) : FilterPredicate → Prop
  | .equality _ value => value = .integer observed
  | .multiEquality _ values => .integer observed ∈ values
  | .range _ lower upper =>
      (∀ bound ∈ lower, ∃ first, bound = .integer first ∧ first ≤ observed) ∧
        ∀ bound ∈ upper, ∃ last, bound = .integer last ∧ observed ≤ last
  | .spatial _ _ => False

theorem extensional_trueOfYear (observed : Int32) :
    QueryNode.Extensional (trueOfYear observed) where
  equal := by
    intro field left right same
    cases left <;> cases right <;> simp_all [TypedValue.equal, trueOfYear]
  multi := by simp [trueOfYear]

theorem parameterFilter_holds_iff_years :
    ∃ tree, compiler.parameterFilter year years = .ok (some tree) ∧
      tree.Holds (trueOfYear 2001) ∧ ¬ tree.Holds (trueOfYear 2004) := by
  have compiled : ∃ tree, compiler.parameterFilter year years = .ok (some tree) := ⟨_, rfl⟩
  obtain ⟨tree, compiled⟩ := compiled
  obtain ⟨-, means⟩ := SearchCompiler.parameterFilter_holds_iff compiled
  obtain ⟨field, mapped, holds⟩ := means tree rfl
  have isYear : compiler.catalog.fieldFor year = some "year" := by decide +kernel
  obtain rfl := Option.some.inj (mapped.symm.trans isYear)
  have raws : years.values = ["!2003,2005", "1990", "2000,2010"] := rfl
  have inRange : ∀ raw first last, compiler.readCondition year "year" (compiler.unmarked raw) =
        .ok (.between (some (.integer first)) (some (.integer last))) →
      ∀ observed, compiler.Describes (trueOfYear observed) year "year" raw ↔
        first ≤ observed ∧ observed ≤ last := by
    intro raw first last read observed
    rw [SearchCompiler.describes_iff read]
    simp [trueOfYear, Condition.statement]
  have selected := inRange "2000,2010" 2000 2010 rfl
  have excluded := inRange "!2003,2005" 2003 2005 rfl
  refine ⟨tree, compiled, ?_, ?_⟩
  · refine (holds _ (extensional_trueOfYear 2001)).2 ⟨.inr ⟨"2000,2010", ?_, ?_, ?_⟩, ?_⟩
    · simp [raws]
    · decide +kernel
    · exact (selected 2001).2 (by decide)
    · intro raw member isExcluded
      rw [raws] at member
      rcases member with _ | ⟨_, _ | ⟨_, _ | ⟨_, ⟨⟩⟩⟩⟩
      · exact fun describes => absurd ((excluded 2001).1 describes) (by decide)
      · exact absurd isExcluded (by decide +kernel)
      · exact absurd isExcluded (by decide +kernel)
  · intro isTrue
    obtain ⟨-, noneExcluded⟩ := (holds _ (extensional_trueOfYear 2004)).1 isTrue
    refine noneExcluded "!2003,2005" (by simp [raws]) (by decide +kernel) ?_
    exact (excluded 2004).2 (by decide)

end Observations

end FacetedSearch
