import FacetedSearch.Proofs.Query.Selections
import FacetedSearch.Proofs.Query.Trees

/-!
Contract: the groups and the statements of compiled trees.

Owns:
- `QueryNode.Grouped`: no group of a tree, and no list of values, has less than two parts;
- `Stated`, the statements that some conditions give rise to;
- `SearchCompiler.shape_of_parameterFilter`: the tree of a parameter is grouped, and its statements
  are those of conditions that its raw values were read as;
- `between_of_readCondition` and `inside_of_readCondition`: where ranges and shapes come from.

Does not own: the order of statements in a tree.
-/

namespace FacetedSearch

/-! ## Groups -/

/-- Several values, where a statement lists values. -/
def FilterPredicate.Grouped : FilterPredicate → Prop
  | .multiEquality _ values => 2 ≤ values.length
  | _ => True

namespace QueryNode

mutual

/-- Several parts in each group of a tree and in each list of values. -/
def Grouped : QueryNode → Prop
  | .predicate statement => statement.Grouped
  | .not inner => Grouped inner
  | .or nodes => 2 ≤ nodes.length ∧ AllGrouped nodes
  | .and nodes => 2 ≤ nodes.length ∧ AllGrouped nodes

def AllGrouped : List QueryNode → Prop
  | [] => True
  | node :: rest => Grouped node ∧ AllGrouped rest

end

theorem allGrouped_iff (nodes : List QueryNode) :
    AllGrouped nodes ↔ ∀ node ∈ nodes, node.Grouped := by
  induction nodes with
  | nil => simp [AllGrouped]
  | cons node rest inductionHypothesis => simp [AllGrouped, inductionHypothesis]

theorem grouped_of_anyOf {nodes : List QueryNode} {node : QueryNode}
    (each : ∀ node ∈ nodes, node.Grouped) (found : anyOf nodes = some node) : node.Grouped := by
  match nodes, each, found with
  | [_], each, rfl => exact each _ List.mem_cons_self
  | first :: second :: rest, each, rfl =>
      exact ⟨by simp, (allGrouped_iff (first :: second :: rest)).2 each⟩

theorem predicates_of_anyOf {nodes : List QueryNode} {node : QueryNode}
    (found : anyOf nodes = some node) : node.predicates = predicatesOfAll nodes := by
  match nodes, found with
  | [_], rfl => simp [predicatesOfAll]
  | _ :: _ :: _, rfl => rw [predicates]

end QueryNode

/-! ## Statements of conditions -/

/-- A statement about a field that some conditions give rise to: their values are joined, ranges
and shapes stand alone. -/
inductive Stated (field : String) (conditions : List Condition) : FilterPredicate → Prop where
  | value (value : TypedValue) : Stated field conditions (.equality field value)
  | values (values : List TypedValue) (several : 2 ≤ values.length) :
      Stated field conditions (.multiEquality field values)
  | range {lower upper : Option TypedValue} (member : .between lower upper ∈ conditions) :
      Stated field conditions (.range field lower upper)
  | shape {shape : String} (member : .inside shape ∈ conditions) :
      Stated field conditions (.spatial field shape)

namespace Stated

variable {field : String} {conditions others : List Condition} {statement : FilterPredicate}

theorem grouped (stated : Stated field conditions statement) : statement.Grouped := by
  cases stated with
  | values values several => exact several
  | value value => trivial
  | range member => trivial
  | shape member => trivial

theorem mono (stated : Stated field conditions statement)
    (among : ∀ condition ∈ conditions, condition ∈ others) : Stated field others statement := by
  cases stated with
  | value value => exact .value value
  | values values several => exact .values values several
  | range member => exact .range (among _ member)
  | shape member => exact .shape (among _ member)

end Stated

/-- A tree of one statement that some conditions give rise to. -/
def IsStatement (field : String) (conditions : List Condition) (node : QueryNode) : Prop :=
  ∃ statement, node = .predicate statement ∧ Stated field conditions statement

theorem isStatement_of_mem_valueNodes {field : String} {conditions : List Condition}
    {values : List TypedValue} {node : QueryNode} (member : node ∈ valueNodes field values) :
    IsStatement field conditions node := by
  match values, member with
  | [value], member => exact ⟨_, List.mem_singleton.1 member, .value value⟩
  | first :: second :: rest, member =>
      exact ⟨_, List.mem_singleton.1 member, .values (first :: second :: rest) (by simp)⟩

theorem isStatement_of_mem_parts {field : String} {conditions : List Condition} {node : QueryNode}
    (member : node ∈ valueNodes field (distinctValues conditions) ++
      conditions.filterMap (rangeNode? field) ++ conditions.filterMap (shapeNode? field)) :
    IsStatement field conditions node := by
  rcases List.mem_append.1 member with inFront | isShape
  · rcases List.mem_append.1 inFront with isValue | isRange
    · exact isStatement_of_mem_valueNodes isValue
    · obtain ⟨condition, inConditions, found⟩ := List.mem_filterMap.1 isRange
      obtain ⟨lower, upper, rfl, rfl⟩ := rangeNode?_eq_some_iff.1 found
      exact ⟨_, rfl, .range inConditions⟩
  · obtain ⟨condition, inConditions, found⟩ := List.mem_filterMap.1 isShape
    obtain ⟨shape, rfl, rfl⟩ := shapeNode?_eq_some_iff.1 found
    exact ⟨_, rfl, .shape inConditions⟩

/-- A grouped tree of statements that some conditions give rise to. -/
structure HasShape (field : String) (conditions : List Condition) (node : QueryNode) : Prop where
  grouped : node.Grouped
  stated : ∀ statement ∈ node.predicates, Stated field conditions statement

theorem hasShape_of_conditionNode {field : String} {conditions : List Condition}
    {node : QueryNode} (found : conditionNode field conditions = some node) :
    HasShape field conditions node where
  grouped := by
    refine QueryNode.grouped_of_anyOf (fun part member => ?_) found
    obtain ⟨statement, rfl, stated⟩ := isStatement_of_mem_parts member
    exact stated.grouped
  stated := by
    intro statement member
    rw [QueryNode.predicates_of_anyOf found, QueryNode.mem_predicatesOfAll] at member
    obtain ⟨part, inParts, inPart⟩ := member
    obtain ⟨single, rfl, stated⟩ := isStatement_of_mem_parts inParts
    rw [QueryNode.predicates, List.mem_singleton] at inPart
    exact inPart ▸ stated

namespace HasShape

variable {field : String} {conditions others : List Condition} {node : QueryNode}

theorem mono (shape : HasShape field conditions node)
    (among : ∀ condition ∈ conditions, condition ∈ others) : HasShape field others node where
  grouped := shape.grouped
  stated := fun statement member => (shape.stated statement member).mono among

theorem not (shape : HasShape field conditions node) :
    HasShape field conditions (.not node) where
  grouped := shape.grouped
  stated := shape.stated

theorem and {other : QueryNode} (shape : HasShape field conditions node)
    (otherShape : HasShape field conditions other) :
    HasShape field conditions (.and [node, other]) where
  grouped := ⟨by simp, shape.grouped, otherShape.grouped, trivial⟩
  stated := by
    intro statement member
    simp only [QueryNode.predicates, QueryNode.predicatesOfAll, List.mem_append, List.append_nil]
      at member
    rcases member with inFirst | inSecond
    · exact shape.stated statement inFirst
    · exact otherShape.stated statement inSecond

end HasShape

theorem hasShape_of_conditionsOf {field : String} {selections : List Selection} {negated : Bool}
    {node : QueryNode} (found : conditionNode field (conditionsOf selections negated) = some node) :
    HasShape field (selections.map Selection.condition) node := by
  refine (hasShape_of_conditionNode found).mono fun condition member => ?_
  obtain ⟨selection, kept, rfl⟩ := List.mem_map.1 member
  exact List.mem_map_of_mem (List.mem_of_mem_filter kept)

/-- Selected and excluded conditions have the same shape. -/
theorem hasShape_of_selectionNode {field : String} {selections : List Selection}
    {node : QueryNode} (found : selectionNode field selections = some node) :
    HasShape field (selections.map Selection.condition) node := by
  cases combines_of_selectionNode found with
  | positive selected noneExcluded => exact hasShape_of_conditionsOf selected
  | negative noneSelected excluded => exact (hasShape_of_conditionsOf excluded).not
  | both selected excluded =>
      exact (hasShape_of_conditionsOf selected).and (hasShape_of_conditionsOf excluded).not

/-! ## Conditions of raw values -/

theorem orMalformed_eq_ok_iff {α : Type} {raw expected : String} {found : Option α} {value : α} :
    orMalformed raw expected found = .ok value ↔ found = some value := by
  cases found <;> simp [orMalformed, malformedValue]

/-- A value of the kind that the raw values of a type are read as. -/
def TypedValue.HasType : TypedValue → ValueType → Prop
  | .text _, .text => True
  | .keyword _, .enumeration _ => True
  | .boolean _, .boolean => True
  | .integer _, .integer => True
  | .long _, .long => True
  | .double _, .double => True
  | .float _, .float => True
  | .date _, .date => True
  | .uuid _, .uuid => True
  | _, _ => False

theorem hasType_of_readScalar {type : ValueType} {raw : String} {value : TypedValue}
    (read : readScalar type raw = .ok value) : value.HasType type := by
  have ofMap {α : Type} {expected : String} {make : α → TypedValue} {found : Option α}
      (isRead : orMalformed raw expected (found.map make) = .ok value) :
      ∃ content, value = make content := by
    obtain ⟨content, -, isValue⟩ := Option.map_eq_some_iff.1 (orMalformed_eq_ok_iff.1 isRead)
    exact ⟨content, isValue.symm⟩
  cases type with
  | text =>
      cases read
      trivial
  | date =>
      obtain ⟨period, -, rfl⟩ := map_eq_ok_iff.1 read
      trivial
  | integer =>
      obtain ⟨number, rfl⟩ : ∃ number : Int, value = .integer (Int32.ofInt number) := ofMap read
      trivial
  | long =>
      obtain ⟨number, rfl⟩ : ∃ number : Int, value = .long (Int64.ofInt number) := ofMap read
      trivial
  | double =>
      obtain ⟨number, rfl⟩ := ofMap read
      trivial
  | float =>
      obtain ⟨number, rfl⟩ := ofMap read
      trivial
  | boolean =>
      obtain ⟨isTrue, rfl⟩ := ofMap read
      trivial
  | uuid =>
      obtain ⟨uuid, rfl⟩ := ofMap read
      trivial
  | enumeration vocabulary =>
      obtain ⟨name, rfl⟩ := ofMap read
      trivial

namespace FilterSyntax

variable {filterSyntax : FilterSyntax} {type : ValueType}

theorem hasType_of_readBound {day : Calendar.Period → Calendar.Date} {token : String}
    {value : TypedValue} (read : filterSyntax.readBound type day token = .ok (some value)) :
    value.HasType type := by
  unfold readBound at read
  split at read
  · cases read
  · split at read
    · obtain ⟨period, -, isValue⟩ := map_eq_ok_iff.1 read
      cases isValue
      trivial
    · obtain ⟨scalar, isScalar, isValue⟩ := map_eq_ok_iff.1 read
      cases isValue
      exact hasType_of_readScalar isScalar

/-- The bounds of a range have the type of its raw value, and the type has ranges. -/
theorem between_of_readCondition {raw : String} {lower upper : Option TypedValue}
    (read : filterSyntax.readCondition type raw = .ok (.between lower upper)) :
    type.supportsRanges = true ∧ (∀ bound ∈ lower, bound.HasType type) ∧
      ∀ bound ∈ upper, bound.HasType type := by
  unfold readCondition at read
  split at read
  · rename_i lowerToken upperToken _
    unfold readRange at read
    split at read
    · rename_i supported
      split at read
      · cases read
      · rename_i first lowerRead
        obtain ⟨second, upperRead, isRange⟩ := map_eq_ok_iff.1 read
        cases isRange
        refine ⟨supported, fun bound member => ?_, fun bound member => ?_⟩
        · rw [Option.mem_def] at member
          exact hasType_of_readBound (member ▸ lowerRead)
        · rw [Option.mem_def] at member
          exact hasType_of_readBound (member ▸ upperRead)
    · cases read
  · split at read
    · obtain ⟨period, -, isRange⟩ := map_eq_ok_iff.1 read
      unfold periodCondition at isRange
      split at isRange
      · cases isRange
      · cases isRange
        simp [ValueType.supportsRanges, TypedValue.HasType]
    · obtain ⟨value, -, isRange⟩ := map_eq_ok_iff.1 read
      cases isRange

theorem inside_ne_readCondition {raw shape : String} :
    filterSyntax.readCondition type raw ≠ .ok (.inside shape) := by
  intro read
  unfold readCondition at read
  split at read
  · unfold readRange at read
    split at read
    · split at read
      · cases read
      · obtain ⟨upper, -, isShape⟩ := map_eq_ok_iff.1 read
        cases isShape
    · cases read
  · split at read
    · obtain ⟨period, -, isShape⟩ := map_eq_ok_iff.1 read
      unfold periodCondition at isShape
      split at isShape <;> cases isShape
    · obtain ⟨value, -, isShape⟩ := map_eq_ok_iff.1 read
      cases isShape

end FilterSyntax

/-! ## Trees of parameters -/

variable {P : Type} [SearchParameter P]

namespace SearchCompiler

variable {compiler : SearchCompiler P} {parameter : P} {field text : String}

theorem between_of_readCondition {lower upper : Option TypedValue}
    (read : compiler.readCondition parameter field text = .ok (.between lower upper)) :
    ∃ type : ValueType, type.supportsRanges = true ∧ (∀ bound ∈ lower, bound.HasType type) ∧
      ∀ bound ∈ upper, bound.HasType type := by
  unfold readCondition at read
  split at read
  · obtain ⟨shape, -, isRange⟩ := map_eq_ok_iff.1 read
    cases isRange
  · exact ⟨_, FilterSyntax.between_of_readCondition read⟩

theorem inside_of_readCondition {shape : String}
    (read : compiler.readCondition parameter field text = .ok (.inside shape)) :
    Geometry.normalForm text = .ok shape := by
  unfold readCondition at read
  split at read
  · obtain ⟨normal, isNormal, isShape⟩ := map_eq_ok_iff.1 read
    cases isShape
    exact isNormal
  · exact absurd read FilterSyntax.inside_ne_readCondition

/-- The tree of a parameter has the shape that the conditions of its raw values give it. -/
theorem shape_of_parameterFilter {values : RawValues} {node : QueryNode}
    (compiled : compiler.parameterFilter parameter values = .ok (some node)) :
    ∃ field conditions, compiler.catalog.fieldFor parameter = some field ∧
      HasShape field conditions node ∧
      ∀ condition ∈ conditions, ∃ raw ∈ values.values,
        compiler.readCondition parameter field (compiler.unmarked raw) = .ok condition := by
  unfold parameterFilter at compiled
  split at compiled
  · cases compiled
  · rename_i field mapped
    obtain ⟨selections, read, found⟩ := map_eq_ok_iff.1 compiled
    refine ⟨field, _, mapped, hasShape_of_selectionNode found, fun condition member => ?_⟩
    obtain ⟨selection, inSelections, rfl⟩ := List.mem_map.1 member
    obtain ⟨raw, inValues, isRead⟩ := exists_mem_of_mapM_eq_ok read inSelections
    exact ⟨raw, inValues, (of_readSelection_eq_ok isRead).2⟩

end SearchCompiler

end FacetedSearch
