import FacetedSearch.Proofs.Outcome
import FacetedSearch.Query.Compilation

/-!
Contract: the fields that compiled trees are about.

Owns:
- `QueryNode.On`, a tree with statements, all of them about one field;
- `QueryNode.On.head?_field`: the first statement of such a tree tells its field;
- `QueryNode.Combines` and `combines_of_selectionNode`: the tree of selections is a selected part,
  an excluded one that is negated, or both;
- `on_of_parameterFilter`: the tree of a parameter is on the field of the parameter, whatever
  values, ranges, shapes and exclusions it has.

Does not own: what the statements say about the field.
-/

namespace FacetedSearch

/-! ## Trees on a field -/

/-- A tree that has statements, all of them about the field. -/
structure QueryNode.On (field : String) (node : QueryNode) : Prop where
  states : node.predicates ≠ []
  about : ∀ predicate ∈ node.predicates, predicate.field = field

namespace QueryNode

theorem mem_predicatesOfAll (predicate : FilterPredicate) (nodes : List QueryNode) :
    predicate ∈ predicatesOfAll nodes ↔ ∃ node ∈ nodes, predicate ∈ node.predicates := by
  induction nodes with
  | nil => simp [predicatesOfAll]
  | cons node rest inductionHypothesis => simp [predicatesOfAll, inductionHypothesis]

theorem predicatesOfAll_ne_nil {field : String} {nodes : List QueryNode} (notEmpty : nodes ≠ [])
    (each : ∀ node ∈ nodes, node.On field) : predicatesOfAll nodes ≠ [] := by
  cases nodes with
  | nil => exact absurd rfl notEmpty
  | cons node rest =>
      have states := (each node List.mem_cons_self).states
      simp [predicatesOfAll, states]

theorem on_predicate {field : String} {statement : FilterPredicate}
    (about : statement.field = field) : (predicate statement).On field where
  states := by simp [predicates]
  about := by simpa [predicates] using about

theorem On.not {field : String} {node : QueryNode} (on : node.On field) :
    (QueryNode.not node).On field where
  states := by simpa [predicates] using on.states
  about := by simpa [predicates] using on.about

theorem on_of_parts {field : String} {whole : QueryNode} {nodes : List QueryNode}
    (same : whole.predicates = predicatesOfAll nodes) (notEmpty : nodes ≠ [])
    (each : ∀ node ∈ nodes, node.On field) : whole.On field where
  states := by simpa [same] using predicatesOfAll_ne_nil notEmpty each
  about := by
    intro predicate member
    rw [same, mem_predicatesOfAll] at member
    obtain ⟨node, inNodes, inNode⟩ := member
    exact (each node inNodes).about predicate inNode

theorem on_or {field : String} {nodes : List QueryNode} (notEmpty : nodes ≠ [])
    (each : ∀ node ∈ nodes, node.On field) : (or nodes).On field :=
  on_of_parts (by rw [predicates]) notEmpty each

theorem on_and {field : String} {nodes : List QueryNode} (notEmpty : nodes ≠ [])
    (each : ∀ node ∈ nodes, node.On field) : (and nodes).On field :=
  on_of_parts (by rw [predicates]) notEmpty each

theorem on_of_anyOf {field : String} {nodes : List QueryNode} {node : QueryNode}
    (each : ∀ node ∈ nodes, node.On field) (found : anyOf nodes = some node) : node.On field := by
  match nodes, each, found with
  | [_], each, rfl => exact each _ List.mem_cons_self
  | _ :: _ :: _, each, rfl => exact on_or (List.cons_ne_nil _ _) each

/-- The first statement tells the field. -/
theorem On.head?_field {field : String} {node : QueryNode} (on : node.On field) :
    node.predicates.head?.map FilterPredicate.field = some field := by
  have states := on.states
  have about := on.about
  generalize node.predicates = statements at states about ⊢
  cases statements with
  | nil => exact absurd rfl states
  | cons first rest => exact congrArg some (about first List.mem_cons_self)

end QueryNode

/-! ## Trees of conditions -/

theorem on_of_mem_valueNodes {field : String} {values : List TypedValue} {node : QueryNode}
    (member : node ∈ valueNodes field values) : node.On field := by
  match values, member with
  | [_], member =>
      rw [List.mem_singleton.1 member]
      exact QueryNode.on_predicate rfl
  | _ :: _ :: _, member =>
      rw [List.mem_singleton.1 member]
      exact QueryNode.on_predicate rfl

theorem on_of_rangeNode? {field : String} {condition : Condition} {node : QueryNode}
    (found : rangeNode? field condition = some node) : node.On field := by
  cases condition with
  | between lower upper =>
      cases found
      exact QueryNode.on_predicate rfl
  | equals value => cases found
  | inside shape => cases found

theorem on_of_shapeNode? {field : String} {condition : Condition} {node : QueryNode}
    (found : shapeNode? field condition = some node) : node.On field := by
  cases condition with
  | inside shape =>
      cases found
      exact QueryNode.on_predicate rfl
  | equals value => cases found
  | between lower upper => cases found

theorem on_of_conditionNode {field : String} {conditions : List Condition} {node : QueryNode}
    (found : conditionNode field conditions = some node) : node.On field := by
  refine QueryNode.on_of_anyOf ?_ found
  intro part member
  rcases List.mem_append.1 member with inFront | isShape
  · rcases List.mem_append.1 inFront with isValue | isRange
    · exact on_of_mem_valueNodes isValue
    · obtain ⟨condition, -, range⟩ := List.mem_filterMap.1 isRange
      exact on_of_rangeNode? range
  · obtain ⟨condition, -, shape⟩ := List.mem_filterMap.1 isShape
    exact on_of_shapeNode? shape

/-! ## Selected and excluded parts -/

/-- The conditions of the selections of some kind. -/
def conditionsOf (selections : List Selection) (negated : Bool) : List Condition :=
  (selections.filter fun selection => selection.negated == negated).map Selection.condition

theorem conditionsOf_eq_nil_iff {selections : List Selection} {negated : Bool} :
    conditionsOf selections negated = [] ↔
      ∀ selection ∈ selections, selection.negated = !negated := by
  simp [conditionsOf, Bool.eq_not]

/-- A selected part, an excluded part that is negated, or both of them in this order. -/
inductive QueryNode.Combines (selected excluded : Option QueryNode → Prop) : QueryNode → Prop
  | positive {part : QueryNode} (isSelected : selected (some part)) (noneExcluded : excluded none) :
      Combines selected excluded part
  | negative {part : QueryNode} (noneSelected : selected none) (isExcluded : excluded (some part)) :
      Combines selected excluded (.not part)
  | both {part other : QueryNode} (isSelected : selected (some part))
      (isExcluded : excluded (some other)) : Combines selected excluded (.and [part, .not other])

theorem selectionNode_eq (field : String) (selections : List Selection) :
    selectionNode field selections =
      match conditionNode field (conditionsOf selections false),
        conditionNode field (conditionsOf selections true) with
      | some positive, some negative => some (.and [positive, .not negative])
      | some positive, none => some positive
      | none, some negative => some (.not negative)
      | none, none => none := by
  have selected : (fun selection : Selection => selection.negated == false) =
      fun selection => !selection.negated := funext fun _ => beq_false _
  have excluded : (fun selection : Selection => selection.negated == true) = Selection.negated :=
    funext fun _ => beq_true _
  rw [conditionsOf, conditionsOf, selected, excluded]
  rfl

/-- The tree of selections combines those of the selected and of the excluded conditions. -/
theorem combines_of_selectionNode {field : String} {selections : List Selection}
    {node : QueryNode} (found : selectionNode field selections = some node) :
    QueryNode.Combines (conditionNode field (conditionsOf selections false) = ·)
      (conditionNode field (conditionsOf selections true) = ·) node := by
  rw [selectionNode_eq] at found
  split at found
  · rename_i positive negative selected excluded
    cases found
    exact .both selected excluded
  · rename_i positive selected noneExcluded
    cases found
    exact .positive selected noneExcluded
  · rename_i negative noneSelected excluded
    cases found
    exact .negative noneSelected excluded
  · cases found

/-! ## Trees of parameters -/

/-- Selected and excluded conditions are about the same field. -/
theorem on_of_selectionNode {field : String} {selections : List Selection} {node : QueryNode}
    (found : selectionNode field selections = some node) : node.On field := by
  cases combines_of_selectionNode found with
  | positive selected noneExcluded => exact on_of_conditionNode selected
  | negative noneSelected excluded => exact (on_of_conditionNode excluded).not
  | both selected excluded =>
      apply QueryNode.on_and (List.cons_ne_nil _ _)
      intro part member
      rcases List.mem_pair.1 member with rfl | rfl
      · exact on_of_conditionNode selected
      · exact (on_of_conditionNode excluded).not

variable {P : Type} [SearchParameter P]

namespace SearchCompiler

theorem on_of_parameterFilter {compiler : SearchCompiler P} {parameter : P} {values : RawValues}
    {node : QueryNode} (compiled : compiler.parameterFilter parameter values = .ok (some node)) :
    ∃ field, compiler.catalog.fieldFor parameter = some field ∧ node.On field := by
  unfold parameterFilter at compiled
  split at compiled
  · cases compiled
  · rename_i field mapped
    obtain ⟨selections, -, found⟩ := map_eq_ok_iff.1 compiled
    exact ⟨field, mapped, on_of_selectionNode found⟩

end SearchCompiler

end FacetedSearch
