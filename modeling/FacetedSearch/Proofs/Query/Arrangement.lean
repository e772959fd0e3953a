import FacetedSearch.Proofs.Query.Shapes
import FacetedSearch.Proofs.Text.Bytes
import Mathlib.Data.List.Induction

/-!
Contract: how the statements of a compiled tree are arranged.

Owns:
- `QueryNode.IsPart` and `QueryNode.notDepth`: parts of trees, and how deep negations are nested;
- `InByteOrder`, all raw values that state something of a kind, in the order of their bytes, and
  `StatesFirst`, the first raw value of each typed value;
- `FirstValues` and `firstValues_foldl`: joining one more value keeps the first raw values, so
  joining all values finds them;
- `Arranges` and `IsPartOf`, the statements of a part in their order, and `isPartOf_conditionNode`,
  which says that the tree of conditions is such a part;
- `SearchCompiler.States`, what a raw value says of a parameter;
- `SearchCompiler.parameterFilter_arranged`: the tree of a parameter is a combination of arranged
  parts.

Both parts are compiled from raw values in one pass, in the order of their bytes, so the order of
each kind of statements is that of the raw values.

Does not own: what the trees mean.
-/

namespace FacetedSearch

open Text

/-! ## Parts -/

namespace QueryNode

/-- A part of a tree: a single statement, or several of which one has to be true. -/
inductive IsPart : List FilterPredicate → QueryNode → Prop
  | single (statement : FilterPredicate) : IsPart [statement] (.predicate statement)
  | several {statements : List FilterPredicate} (several : 2 ≤ statements.length) :
      IsPart statements (.or (statements.map .predicate))

theorem isPart_of_anyOf {statements : List FilterPredicate} {node : QueryNode}
    (found : anyOf (statements.map .predicate) = some node) : IsPart statements node := by
  match statements, found with
  | [statement], rfl => exact .single statement
  | first :: second :: rest, rfl => exact .several (by simp)

mutual

/-- How many negations there are at most around a statement. -/
def notDepth : QueryNode → Nat
  | .predicate _ => 0
  | .not inner => notDepth inner + 1
  | .or nodes => notDepthOfAll nodes
  | .and nodes => notDepthOfAll nodes

def notDepthOfAll : List QueryNode → Nat
  | [] => 0
  | node :: rest => max (notDepth node) (notDepthOfAll rest)

end

theorem predicatesOfAll_map_predicate (statements : List FilterPredicate) :
    predicatesOfAll (statements.map .predicate) = statements := by
  induction statements with
  | nil => rfl
  | cons statement rest inductionHypothesis =>
      rw [List.map_cons, predicatesOfAll, inductionHypothesis, predicates, List.singleton_append]

theorem notDepthOfAll_map_predicate (statements : List FilterPredicate) :
    notDepthOfAll (statements.map .predicate) = 0 := by
  induction statements with
  | nil => rfl
  | cons statement rest inductionHypothesis =>
      rw [List.map_cons, notDepthOfAll, inductionHypothesis, notDepth, Nat.max_self]

namespace IsPart

variable {statements : List FilterPredicate} {part : QueryNode}

theorem predicates_eq (isPart : IsPart statements part) : part.predicates = statements := by
  cases isPart with
  | single statement => rw [predicates]
  | several several => rw [predicates, predicatesOfAll_map_predicate]

theorem notDepth_eq_zero (isPart : IsPart statements part) : part.notDepth = 0 := by
  cases isPart with
  | single statement => rw [notDepth]
  | several several => rw [notDepth, notDepthOfAll_map_predicate]

end IsPart

namespace Combines

variable {selected excluded : Option QueryNode → Prop} {tree : QueryNode}

theorem imp {otherSelected otherExcluded : Option QueryNode → Prop}
    (combines : Combines selected excluded tree)
    (ofSelected : ∀ part?, selected part? → otherSelected part?)
    (ofExcluded : ∀ part?, excluded part? → otherExcluded part?) :
    Combines otherSelected otherExcluded tree := by
  cases combines with
  | positive isSelected noneExcluded =>
      exact .positive (ofSelected _ isSelected) (ofExcluded _ noneExcluded)
  | negative noneSelected isExcluded =>
      exact .negative (ofSelected _ noneSelected) (ofExcluded _ isExcluded)
  | both isSelected isExcluded => exact .both (ofSelected _ isSelected) (ofExcluded _ isExcluded)

/-- Each statement of a combination is one of its parts. -/
theorem exists_part (combines : Combines selected excluded tree) {statement : FilterPredicate}
    (member : statement ∈ tree.predicates) :
    ∃ part, (selected (some part) ∨ excluded (some part)) ∧ statement ∈ part.predicates := by
  cases combines with
  | positive isSelected _ => exact ⟨tree, .inl isSelected, member⟩
  | negative _ isExcluded => exact ⟨_, .inr isExcluded, by rwa [predicates] at member⟩
  | both isSelected isExcluded =>
      simp only [predicates, predicatesOfAll, List.append_nil, List.mem_append] at member
      rcases member with inSelected | inExcluded
      · exact ⟨_, .inl isSelected, inSelected⟩
      · exact ⟨_, .inr isExcluded, inExcluded⟩

theorem notDepth_le_one (combines : Combines selected excluded tree)
    (flat : ∀ part, selected (some part) ∨ excluded (some part) → part.notDepth = 0) :
    tree.notDepth ≤ 1 := by
  cases combines with
  | positive isSelected _ => simp [flat _ (.inl isSelected)]
  | negative _ isExcluded => simp [notDepth, flat _ (.inr isExcluded)]
  | both isSelected isExcluded =>
      simp [notDepth, notDepthOfAll, flat _ (.inl isSelected), flat _ (.inr isExcluded)]

end Combines

end QueryNode

/-! ## Raw values in order -/

/-- Whether raw values, each with what it states, are all those that state such a thing, in the
order of their bytes. -/
structure InByteOrder {α : Type} (states : String → α → Prop) (entries : List (String × α)) :
    Prop where
  ascending : entries.Pairwise fun first second => BytesBefore first.1 second.1
  complete : ∀ raw stated, (raw, stated) ∈ entries ↔ states raw stated

/-- Whether a raw value states a typed value, and none with smaller bytes states an equal one. -/
def StatesFirst (states : String → Condition → Prop) (raw : String) (value : TypedValue) : Prop :=
  states raw (.equals value) ∧
    ∀ other otherValue, states other (.equals otherValue) → otherValue.equal value = true →
      ¬ BytesBefore other raw

/-- The entries of some raw values with conditions of one kind. -/
def entriesOf {α : Type} (kind? : Condition → Option α) (spelled : List (String × Condition)) :
    List (String × α) :=
  spelled.filterMap fun entry => (kind? entry.2).map fun stated => (entry.1, stated)

def range? : Condition → Option (Option TypedValue × Option TypedValue)
  | .between lower upper => some (lower, upper)
  | _ => none

theorem range?_eq_some_iff (condition : Condition)
    (bounds : Option TypedValue × Option TypedValue) :
    range? condition = some bounds ↔ condition = .between bounds.1 bounds.2 := by
  cases condition <;> simp [range?, Prod.ext_iff]

def shape? : Condition → Option String
  | .inside shape => some shape
  | _ => none

theorem shape?_eq_some_iff (condition : Condition) (shape : String) :
    shape? condition = some shape ↔ condition = .inside shape := by
  cases condition <;> simp [shape?]

section RawValues

variable {spelled : List (String × Condition)}

theorem inByteOrder_entriesOf {α : Type} {kind? : Condition → Option α} {make : α → Condition}
    (isKind : ∀ condition stated, kind? condition = some stated ↔ condition = make stated)
    (ascending : spelled.Pairwise fun first second => BytesBefore first.1 second.1) :
    InByteOrder (fun raw stated => (raw, make stated) ∈ spelled) (entriesOf kind? spelled) where
  ascending := by
    rw [entriesOf, List.pairwise_filterMap]
    refine ascending.imp fun before first isFirst second isSecond => ?_
    obtain ⟨_, -, rfl⟩ := Option.map_eq_some_iff.1 isFirst
    obtain ⟨_, -, rfl⟩ := Option.map_eq_some_iff.1 isSecond
    exact before
  complete := by
    intro raw stated
    rw [entriesOf, List.mem_filterMap]
    constructor
    · rintro ⟨⟨other, condition⟩, member, found⟩
      obtain ⟨otherStated, isStated, same⟩ := Option.map_eq_some_iff.1 found
      obtain ⟨rfl, rfl⟩ := Prod.mk.inj same
      rwa [(isKind condition otherStated).1 isStated] at member
    · intro member
      have isStated := (isKind (make stated) stated).2 rfl
      exact ⟨_, member, Option.map_eq_some_iff.2 ⟨stated, isStated, rfl⟩⟩

theorem filterMap_rangeNode?_eq (field : String) (spelled : List (String × Condition)) :
    (spelled.map Prod.snd).filterMap (rangeNode? field) =
      ((entriesOf range? spelled).map fun entry =>
        FilterPredicate.range field entry.2.1 entry.2.2).map .predicate := by
  rw [entriesOf, List.map_map, List.filterMap_map, List.map_filterMap]
  refine List.filterMap_congr fun entry _ => ?_
  obtain ⟨raw, condition⟩ := entry
  cases condition <;> rfl

theorem filterMap_shapeNode?_eq (field : String) (spelled : List (String × Condition)) :
    (spelled.map Prod.snd).filterMap (shapeNode? field) =
      ((entriesOf shape? spelled).map fun entry =>
        FilterPredicate.spatial field entry.2).map .predicate := by
  rw [entriesOf, List.map_map, List.filterMap_map, List.map_filterMap]
  refine List.filterMap_congr fun entry _ => ?_
  obtain ⟨raw, condition⟩ := entry
  cases condition <;> rfl

/-! ## The first raw value of each value -/

/-- Raw values of different typed values with those of one more raw value. -/
def addFirst (values : List (String × TypedValue)) (entry : String × Condition) :
    List (String × TypedValue) :=
  match entry.2 with
  | .equals value =>
      if values.any fun present => present.2.equal value then values
      else values ++ [(entry.1, value)]
  | _ => values

theorem map_snd_addFirst (values : List (String × TypedValue)) (entry : String × Condition) :
    (addFirst values entry).map Prod.snd = addDistinct (values.map Prod.snd) entry.2 := by
  obtain ⟨raw, condition⟩ := entry
  cases condition with
  | equals value =>
      unfold addFirst addDistinct
      dsimp only
      rw [List.any_map]
      simp only [Function.comp_def]
      split <;> simp
  | between lower upper => rfl
  | inside shape => rfl

theorem map_snd_foldl_addFirst (spelled : List (String × Condition)) :
    (spelled.foldl addFirst []).map Prod.snd = distinctValues (spelled.map Prod.snd) := by
  have accumulated (start : List (String × TypedValue)) :
      (spelled.foldl addFirst start).map Prod.snd =
        (spelled.map Prod.snd).foldl addDistinct (start.map Prod.snd) := by
    induction spelled generalizing start with
    | nil => rfl
    | cons entry rest inductionHypothesis =>
        rw [List.foldl_cons, inductionHypothesis, map_snd_addFirst, List.map_cons, List.foldl_cons]
  rw [accumulated, distinctValues_eq_foldl]
  rfl

/-- The first raw value of each typed value that some raw values state. -/
structure FirstValues (spelled : List (String × Condition)) (values : List (String × TypedValue)) :
    Prop where
  inOrder : InByteOrder (StatesFirst fun raw condition => (raw, condition) ∈ spelled) values
  differ : values.Pairwise fun first second => first.2.equal second.2 = false
  covered : ∀ raw value, (raw, .equals value) ∈ spelled →
    ∃ entry ∈ values, entry.2 = value ∨ entry.2.equal value = true

/-- A raw value behind all others states a typed value first if none of them states an equal one. -/
theorem statesFirst_concat_iff {entry : String × Condition}
    (last : ∀ earlier ∈ spelled, BytesBefore earlier.1 entry.1) {raw : String}
    {value : TypedValue} :
    StatesFirst (fun raw condition => (raw, condition) ∈ spelled ++ [entry]) raw value ↔
      StatesFirst (fun raw condition => (raw, condition) ∈ spelled) raw value ∨
        entry = (raw, .equals value) ∧ ∀ other otherValue, (other, .equals otherValue) ∈ spelled →
          ¬ otherValue.equal value = true := by
  constructor
  · rintro ⟨member, first⟩
    rcases List.mem_append.1 member with earlier | isEntry
    · exact .inl ⟨earlier, fun other otherValue isOther =>
        first other otherValue (List.mem_append_left _ isOther)⟩
    · obtain rfl := List.mem_singleton.1 isEntry
      refine .inr ⟨rfl, fun other otherValue isOther same => ?_⟩
      exact first other otherValue (List.mem_append_left _ isOther) same (last _ isOther)
  · rintro (⟨earlier, first⟩ | ⟨rfl, fresh⟩)
    · refine ⟨List.mem_append_left _ earlier, fun other otherValue isOther same => ?_⟩
      rcases List.mem_append.1 isOther with otherEarlier | isEntry
      · exact first other otherValue otherEarlier same
      · obtain rfl := List.mem_singleton.1 isEntry
        exact List.lt_asymm (last _ earlier)
    · refine ⟨List.mem_concat_self, fun other otherValue isOther same => ?_⟩
      rcases List.mem_append.1 isOther with otherEarlier | isEntry
      · exact absurd same (fresh other otherValue otherEarlier)
      · rw [(Prod.mk.inj (List.mem_singleton.1 isEntry)).1]
        exact List.lt_irrefl _

namespace FirstValues

variable {values : List (String × TypedValue)} {entry : String × Condition}

/-- A typed value is stated already exactly if an equal one was kept. -/
theorem any_equal_iff (isFirst : FirstValues spelled values) (value : TypedValue) :
    (values.any fun present => present.2.equal value) = true ↔
      ∃ raw stated, (raw, .equals stated) ∈ spelled ∧ stated.equal value = true := by
  rw [List.any_eq_true]
  constructor
  · rintro ⟨⟨raw, stated⟩, member, same⟩
    exact ⟨raw, stated, ((isFirst.inOrder.complete raw stated).1 member).1, same⟩
  · rintro ⟨raw, stated, member, same⟩
    obtain ⟨kept, inValues, isStated | isEqual⟩ := isFirst.covered raw stated member
    · exact ⟨kept, inValues, isStated ▸ same⟩
    · exact ⟨kept, inValues, TypedValue.equal_trans isEqual same⟩

theorem mem_spelled (isFirst : FirstValues spelled values) {kept : String × TypedValue}
    (member : kept ∈ values) : (kept.1, .equals kept.2) ∈ spelled :=
  ((isFirst.inOrder.complete kept.1 kept.2).1 member).1

/-- Values that the last raw value adds nothing to are those of all raw values. -/
theorem concat_of_nothing_new (isFirst : FirstValues spelled values)
    (last : ∀ earlier ∈ spelled, BytesBefore earlier.1 entry.1)
    (nothingNew : ∀ value, entry.2 = .equals value →
      ∃ raw stated, (raw, .equals stated) ∈ spelled ∧ stated.equal value = true) :
    FirstValues (spelled ++ [entry]) values where
  inOrder := by
    refine ⟨isFirst.inOrder.ascending, fun raw value => ?_⟩
    rw [isFirst.inOrder.complete, statesFirst_concat_iff last]
    refine (or_iff_left ?_).symm
    rintro ⟨rfl, fresh⟩
    obtain ⟨other, stated, member, same⟩ := nothingNew value rfl
    exact fresh other stated member same
  differ := isFirst.differ
  covered := by
    intro raw value member
    rcases List.mem_append.1 member with earlier | isEntry
    · exact isFirst.covered raw value earlier
    · obtain rfl := List.mem_singleton.1 isEntry
      obtain ⟨kept, inValues, same⟩ :=
        List.any_eq_true.1 ((isFirst.any_equal_iff value).2 (nothingNew value rfl))
      exact ⟨kept, inValues, .inr same⟩

/-- A raw value of a typed value that equals none before it is the first one of this value. -/
theorem concat_of_new (isFirst : FirstValues spelled values) {raw : String} {value : TypedValue}
    (last : ∀ earlier ∈ spelled, BytesBefore earlier.1 raw)
    (new : ¬ ∃ other stated, (other, .equals stated) ∈ spelled ∧ stated.equal value = true) :
    FirstValues (spelled ++ [(raw, .equals value)]) (values ++ [(raw, value)]) where
  inOrder := by
    refine ⟨List.pairwise_append.2 ⟨isFirst.inOrder.ascending, List.pairwise_singleton _ _, ?_⟩, ?_⟩
    · intro kept inValues entry isEntry
      rw [List.mem_singleton.1 isEntry]
      exact last _ (isFirst.mem_spelled inValues)
    · intro other stated
      rw [statesFirst_concat_iff last, List.mem_append, isFirst.inOrder.complete,
        List.mem_singleton]
      refine or_congr_right ⟨?_, ?_⟩
      · rintro ⟨rfl, rfl⟩
        exact ⟨rfl, fun other stated member same => new ⟨other, stated, member, same⟩⟩
      · rintro ⟨same, -⟩
        obtain ⟨rfl, sameCondition⟩ := Prod.mk.inj same
        rw [Condition.equals.inj sameCondition]
  differ := by
    refine List.pairwise_append.2 ⟨isFirst.differ, List.pairwise_singleton _ _, ?_⟩
    intro kept inValues entry isEntry
    rw [List.mem_singleton.1 isEntry, ← Bool.not_eq_true]
    exact fun same => new ⟨_, _, isFirst.mem_spelled inValues, same⟩
  covered := by
    intro other stated member
    rcases List.mem_append.1 member with earlier | isEntry
    · obtain ⟨kept, inValues, same⟩ := isFirst.covered other stated earlier
      exact ⟨kept, List.mem_append_left _ inValues, same⟩
    · have sameCondition := (Prod.mk.inj (List.mem_singleton.1 isEntry)).2
      exact ⟨_, List.mem_concat_self, .inl (Condition.equals.inj sameCondition).symm⟩

/-- One more raw value behind the others keeps the first raw values. -/
theorem addFirst (isFirst : FirstValues spelled values)
    (last : ∀ earlier ∈ spelled, BytesBefore earlier.1 entry.1) :
    FirstValues (spelled ++ [entry]) (addFirst values entry) := by
  obtain ⟨raw, condition⟩ := entry
  cases condition with
  | equals value =>
      unfold FacetedSearch.addFirst
      dsimp only
      split
      · rename_i present
        refine isFirst.concat_of_nothing_new last fun other sameCondition => ?_
        rw [← Condition.equals.inj sameCondition]
        exact (isFirst.any_equal_iff value).1 present
      · rename_i absent
        rw [isFirst.any_equal_iff] at absent
        exact isFirst.concat_of_new last absent
  | between lower upper => exact isFirst.concat_of_nothing_new last fun _ isValue => nomatch isValue
  | inside shape => exact isFirst.concat_of_nothing_new last fun _ isValue => nomatch isValue

/-- If all typed values that are stated equal one another, there is one first raw value. -/
theorem exists_eq_singleton (isFirst : FirstValues spelled values) {raw : String}
    {value : TypedValue} (member : (raw, .equals value) ∈ spelled)
    (alone : ∀ other stated, (other, .equals stated) ∈ spelled → stated.equal value = true) :
    ∃ only, values = [only] := by
  obtain ⟨first, inValues, -⟩ := isFirst.covered raw value member
  match values, inValues, isFirst with
  | [only], _, _ => exact ⟨only, rfl⟩
  | first :: second :: rest, _, isFirst =>
      have firstSame := alone _ _ (isFirst.mem_spelled List.mem_cons_self)
      have secondSame :=
        alone _ _ (isFirst.mem_spelled (List.mem_cons_of_mem _ List.mem_cons_self))
      rw [TypedValue.equal_comm] at secondSame
      have differ := (List.pairwise_cons.1 isFirst.differ).1 second List.mem_cons_self
      rw [TypedValue.equal_trans firstSame secondSame] at differ
      cases differ

end FirstValues

theorem firstValues_foldl
    (ascending : spelled.Pairwise fun first second => BytesBefore first.1 second.1) :
    FirstValues spelled (spelled.foldl addFirst []) := by
  induction spelled using List.reverseRecOn with
  | nil =>
      refine ⟨⟨.nil, fun raw value => iff_of_false List.not_mem_nil ?_⟩, .nil, ?_⟩
      · exact fun first => List.not_mem_nil first.1
      · exact fun _ _ member => absurd member List.not_mem_nil
  | append_singleton spelled entry inductionHypothesis =>
      obtain ⟨earlier, -, last⟩ := List.pairwise_append.1 ascending
      rw [List.foldl_concat]
      exact (inductionHypothesis earlier).addFirst fun other member =>
        last other member entry (List.mem_singleton.2 rfl)

end RawValues

/-! ## Statements in order -/

/-- The statement of some typed values, if there are any: one value alone, several together. -/
inductive Joined (field : String) : List TypedValue → List FilterPredicate → Prop
  | none : Joined field [] []
  | one (value : TypedValue) : Joined field [value] [.equality field value]
  | several {values : List TypedValue} (several : 2 ≤ values.length) :
      Joined field values [.multiEquality field values]

/-- Typed values are stated only if there are some, and never as a shape. -/
theorem Joined.of_mem {field : String} {values : List TypedValue}
    {joined : List FilterPredicate} (joins : Joined field values joined)
    {statement : FilterPredicate} (member : statement ∈ joined) :
    values ≠ [] ∧ ∀ shape, statement ≠ .spatial field shape := by
  cases joins with
  | none => cases member
  | one value =>
      obtain rfl := List.mem_singleton.1 member
      exact ⟨List.cons_ne_nil _ _, nofun⟩
  | several several =>
      obtain rfl := List.mem_singleton.1 member
      exact ⟨List.ne_nil_of_length_pos (Nat.zero_lt_of_lt several), nofun⟩

theorem exists_joined (field : String) (values : List TypedValue) :
    ∃ joined, Joined field values joined ∧ valueNodes field values = joined.map .predicate := by
  match values with
  | [] => exact ⟨[], .none, rfl⟩
  | [value] => exact ⟨_, .one value, rfl⟩
  | first :: second :: rest => exact ⟨_, .several (by simp), rfl⟩

/-- Whether statements are those of some raw values in their order: the different typed values
joined, each by its first raw value, then the ranges, then the shapes, each of them in the order of
the raw values' bytes. -/
structure Arranges (field : String) (states : String → Condition → Prop)
    (values : List (String × TypedValue))
    (ranges : List (String × (Option TypedValue × Option TypedValue)))
    (shapes : List (String × String)) (joined statements : List FilterPredicate) : Prop where
  valuesInOrder : InByteOrder (StatesFirst states) values
  valuesDiffer : values.Pairwise fun first second => first.2.equal second.2 = false
  rangesInOrder : InByteOrder (fun raw bounds => states raw (.between bounds.1 bounds.2)) ranges
  shapesInOrder : InByteOrder (fun raw shape => states raw (.inside shape)) shapes
  joins : Joined field (values.map Prod.snd) joined
  /-- Typed values that all equal one another are a plain equality. -/
  oneValue : ∀ raw value, states raw (.equals value) →
    (∀ other stated, states other (.equals stated) → stated.equal value = true) →
    ∃ only, joined = [.equality field only]
  inOrder : statements =
    joined ++ (ranges.map fun entry => .range field entry.2.1 entry.2.2) ++
      shapes.map fun entry => .spatial field entry.2

/-- Whether a part of a tree holds the statements of some raw values in their order. If they state
nothing there is no part. -/
inductive IsPartOf (field : String) (states : String → Condition → Prop) : Option QueryNode → Prop
  | nothing (nothing : ∀ raw condition, ¬ states raw condition) : IsPartOf field states none
  | part {values : List (String × TypedValue)}
      {ranges : List (String × (Option TypedValue × Option TypedValue))}
      {shapes : List (String × String)} {joined statements : List FilterPredicate}
      {part : QueryNode} (arranges : Arranges field states values ranges shapes joined statements)
      (isPart : part.IsPart statements) : IsPartOf field states (some part)

theorem isPartOf_of_conditionNode {field : String} {spelled : List (String × Condition)}
    (ascending : spelled.Pairwise fun first second => BytesBefore first.1 second.1)
    {node : QueryNode} (found : conditionNode field (spelled.map Prod.snd) = some node) :
    IsPartOf field (fun raw condition => (raw, condition) ∈ spelled) (some node) := by
  have isFirst := firstValues_foldl ascending
  obtain ⟨joined, joins, sameNodes⟩ := exists_joined field (distinctValues (spelled.map Prod.snd))
  rw [conditionNode, sameNodes, filterMap_rangeNode?_eq, filterMap_shapeNode?_eq,
    ← List.map_append, ← List.map_append] at found
  rw [← map_snd_foldl_addFirst] at joins
  have oneValue : ∀ raw value, (raw, .equals value) ∈ spelled →
      (∀ other stated, (other, .equals stated) ∈ spelled → stated.equal value = true) →
      ∃ only, joined = [.equality field only] := by
    intro raw value member alone
    obtain ⟨only, isOnly⟩ := isFirst.exists_eq_singleton member alone
    rw [isOnly] at joins
    cases joins with
    | one => exact ⟨_, rfl⟩
    | several several => simp at several
  exact .part
    ⟨isFirst.inOrder, isFirst.differ, inByteOrder_entriesOf range?_eq_some_iff ascending,
      inByteOrder_entriesOf shape?_eq_some_iff ascending, joins, oneValue, rfl⟩
    (QueryNode.isPart_of_anyOf found)

/-- The tree of some conditions is their part. -/
theorem isPartOf_conditionNode {spelled : List (String × Condition)}
    (ascending : spelled.Pairwise fun first second => BytesBefore first.1 second.1)
    (field : String) :
    IsPartOf field (fun raw condition => (raw, condition) ∈ spelled)
      (conditionNode field (spelled.map Prod.snd)) := by
  cases found : conditionNode field (spelled.map Prod.snd) with
  | none =>
      rw [conditionNode_eq_none_iff, List.map_eq_nil_iff] at found
      exact .nothing fun _ _ => found ▸ List.not_mem_nil
  | some node => exact isPartOf_of_conditionNode ascending found

theorem IsPartOf.notDepth_eq_zero {field : String} {states : String → Condition → Prop}
    {part : QueryNode} (isPart : IsPartOf field states (some part)) : part.notDepth = 0 := by
  cases isPart with
  | part _ isPart => exact isPart.notDepth_eq_zero

/-- Each statement of a part comes from a raw value, and is about a shape exactly if this value
states one. -/
theorem IsPartOf.exists_condition {field : String} {states : String → Condition → Prop}
    {part : QueryNode} (isPart : IsPartOf field states (some part)) {statement : FilterPredicate}
    (member : statement ∈ part.predicates) :
    ∃ raw condition, states raw condition ∧
      ((∃ shape, statement = .spatial field shape) ↔ ∃ shape, condition = .inside shape) := by
  cases isPart with
  | part arranges isPart =>
      rw [isPart.predicates_eq, arranges.inOrder] at member
      rcases List.mem_append.1 member with inFront | isShape
      · rcases List.mem_append.1 inFront with isValue | isRange
        · obtain ⟨someValue, notSpatial⟩ := arranges.joins.of_mem isValue
          obtain ⟨⟨raw, value⟩, inValues⟩ :=
            List.exists_mem_of_ne_nil _ (mt List.map_eq_nil_iff.2 someValue)
          have states := ((arranges.valuesInOrder.complete raw value).1 inValues).1
          exact ⟨raw, _, states, iff_of_false (not_exists.2 notSpatial) (by simp)⟩
        · obtain ⟨⟨raw, bounds⟩, inRanges, rfl⟩ := List.mem_map.1 isRange
          have states := (arranges.rangesInOrder.complete raw bounds).1 inRanges
          exact ⟨raw, _, states, iff_of_false (by simp) (by simp)⟩
      · obtain ⟨⟨raw, shape⟩, inShapes, rfl⟩ := List.mem_map.1 isShape
        have states := (arranges.shapesInOrder.complete raw shape).1 inShapes
        exact ⟨raw, _, states, iff_of_true ⟨shape, rfl⟩ ⟨shape, rfl⟩⟩

/-! ## Trees of parameters -/

variable {P : Type} [SearchParameter P]

namespace SearchCompiler

variable {compiler : SearchCompiler P} {parameter : P} {field : String} {values : RawValues}

/-- Whether a raw value of a parameter states a condition, as one that is selected or excluded. -/
structure States (compiler : SearchCompiler P) (parameter : P) (field : String)
    (values : RawValues) (negated : Bool) (raw : String) (condition : Condition) : Prop where
  member : raw ∈ values.values
  mark : compiler.Excludes raw ↔ negated = true
  read : compiler.readCondition parameter field (compiler.unmarked raw) = .ok condition

/-- The raw values that are selected, or excluded, each with its condition. -/
def spelledOf (values : RawValues) (selections : List Selection) (negated : Bool) :
    List (String × Condition) :=
  ((values.values.zip selections).filter fun entry => entry.2.negated == negated).map
    fun entry => (entry.1, entry.2.condition)

section Selections

variable {selections : List Selection}
  (traversed : values.values.mapM (compiler.readSelection parameter field) = .ok selections)

include traversed

theorem length_eq_of_traversed : values.values.length = selections.length :=
  ((mapM_eq_ok_iff _ _ _).1 traversed).length_eq

theorem map_snd_spelledOf (negated : Bool) :
    (spelledOf values selections negated).map Prod.snd = conditionsOf selections negated := by
  have sameLength := length_eq_of_traversed traversed
  have second : (values.values.zip selections).map Prod.snd = selections :=
    List.map_snd_zip (Nat.le_of_eq sameLength.symm)
  rw [spelledOf, List.map_map, conditionsOf]
  conv_rhs => rw [← second, List.filter_map, List.map_map]
  rfl

theorem ascending_spelledOf (negated : Bool) :
    (spelledOf values selections negated).Pairwise fun first second =>
      BytesBefore first.1 second.1 := by
  have sameLength := length_eq_of_traversed traversed
  have first : (values.values.zip selections).map Prod.fst = values.values :=
    List.map_fst_zip (Nat.le_of_eq sameLength)
  have ascending := values.ascending
  rw [← first, List.pairwise_map] at ascending
  exact List.pairwise_map.2 ((ascending.filter _).imp BytesBefore.of_lt)

/-- The conditions are those that the raw values state. -/
theorem mem_spelledOf_iff {negated : Bool} {raw : String} {condition : Condition} :
    (raw, condition) ∈ spelledOf values selections negated ↔
      compiler.States parameter field values negated raw condition := by
  have each := (mapM_eq_ok_iff _ _ _).1 traversed
  rw [spelledOf, List.mem_map]
  constructor
  · rintro ⟨⟨other, selection⟩, kept, same⟩
    obtain ⟨rfl, rfl⟩ := Prod.mk.inj same
    obtain ⟨member, isKind⟩ := List.mem_filter.1 kept
    obtain ⟨mark, read⟩ := of_readSelection_eq_ok ((List.forall₂_iff_zip.1 each).2 member)
    rw [beq_iff_eq] at isKind
    refine ⟨(List.of_mem_zip member).1, ?_, read⟩
    rw [← mark]
    exact Bool.eq_iff_iff.1 isKind
  · rintro ⟨member, mark, read⟩
    obtain ⟨index, below, rfl⟩ := List.getElem_of_mem member
    have inSelections : index < selections.length := length_eq_of_traversed traversed ▸ below
    have isRead := each.get below inSelections
    obtain ⟨otherMark, otherRead⟩ := of_readSelection_eq_ok isRead
    refine ⟨(values.values[index], selections[index]), List.mem_filter.2 ⟨?_, ?_⟩, ?_⟩
    · have inZip : index < (values.values.zip selections).length :=
        List.length_zip ▸ Nat.lt_min.2 ⟨below, inSelections⟩
      exact List.mem_iff_getElem.2 ⟨index, inZip, List.getElem_zip⟩
    · rw [beq_iff_eq]
      exact Bool.eq_iff_iff.2 (otherMark.trans mark)
    · exact congrArg _ (Except.ok.inj (otherRead.symm.trans read))

theorem isPartOf_of_traversed (negated : Bool) :
    IsPartOf field (compiler.States parameter field values negated)
      (conditionNode field (conditionsOf selections negated)) := by
  have sameStates : (fun raw condition => (raw, condition) ∈ spelledOf values selections negated) =
      compiler.States parameter field values negated :=
    funext₂ fun _ _ => propext (mem_spelledOf_iff traversed)
  rw [← sameStates, ← map_snd_spelledOf traversed]
  exact isPartOf_conditionNode (ascending_spelledOf traversed negated) field

end Selections

/-- A text states a shape exactly if its parameter is spatial. -/
theorem exists_inside_iff {text : String} {condition : Condition}
    (read : compiler.readCondition parameter field text = .ok condition) :
    (∃ shape, condition = .inside shape) ↔
      compiler.catalog.isSpatialParameter parameter = true := by
  unfold readCondition at read
  split at read
  · rename_i spatial
    obtain ⟨shape, -, rfl⟩ := map_eq_ok_iff.1 read
    exact iff_of_true ⟨shape, rfl⟩ spatial
  · rename_i notSpatial
    refine iff_of_false ?_ notSpatial
    rintro ⟨shape, rfl⟩
    exact FilterSyntax.inside_ne_readCondition read

theorem combines_of_parameterFilter {tree : QueryNode}
    (compiled : compiler.parameterFilter parameter values = .ok (some tree)) :
    ∃ field, compiler.catalog.fieldFor parameter = some field ∧
      QueryNode.Combines (IsPartOf field (compiler.States parameter field values false))
        (IsPartOf field (compiler.States parameter field values true)) tree := by
  unfold parameterFilter at compiled
  split at compiled
  · cases compiled
  · rename_i field mapped
    obtain ⟨selections, traversed, found⟩ := map_eq_ok_iff.1 compiled
    refine ⟨field, mapped, (combines_of_selectionNode found).imp ?_ ?_⟩
    · rintro _ rfl
      exact isPartOf_of_traversed traversed false
    · rintro _ rfl
      exact isPartOf_of_traversed traversed true

/-- **Compiled trees are well formed.** The tree of a parameter is about the field of the parameter.
It is a selected part, an excluded part that is negated, or both in this order, as there are raw
values of either kind. Each part is one statement or several of which one has to be true: one on the
different typed values, in the order of their first raw values' bytes, and those on ranges and on
shapes in the order of theirs. Statements are about shapes exactly if the parameter is spatial, and
no negation is inside another. -/
theorem parameterFilter_arranged {tree : QueryNode}
    (compiled : compiler.parameterFilter parameter values = .ok (some tree)) :
    ∃ field, compiler.catalog.fieldFor parameter = some field ∧
      (∀ statement ∈ tree.predicates, statement.field = field) ∧
      QueryNode.Combines (IsPartOf field (compiler.States parameter field values false))
        (IsPartOf field (compiler.States parameter field values true)) tree ∧
      (∀ statement ∈ tree.predicates,
        (∃ shape, statement = .spatial field shape) ↔
          compiler.catalog.isSpatialParameter parameter = true) ∧
      tree.notDepth ≤ 1 := by
  obtain ⟨field, mapped, combines⟩ := combines_of_parameterFilter compiled
  obtain ⟨other, otherMapped, on⟩ := on_of_parameterFilter compiled
  obtain rfl := Option.some.inj (mapped.symm.trans otherMapped)
  refine ⟨field, mapped, on.about, combines, fun statement member => ?_, ?_⟩
  · obtain ⟨part, isPart, inPart⟩ := combines.exists_part member
    have fromRaw : ∃ negated,
        IsPartOf field (compiler.States parameter field values negated) (some part) :=
      isPart.elim (⟨false, ·⟩) (⟨true, ·⟩)
    obtain ⟨negated, isPart⟩ := fromRaw
    obtain ⟨raw, condition, states, aboutShape⟩ := isPart.exists_condition inPart
    exact aboutShape.trans (exists_inside_iff states.read)
  · apply combines.notDepth_le_one
    rintro part (isSelected | isExcluded)
    · exact isSelected.notDepth_eq_zero
    · exact isExcluded.notDepth_eq_zero

end SearchCompiler

/-! ## Observations of species -/

namespace Observations

/-- Two years, one of them spelled in three ways, with a range of years and a year that is
excluded. -/
def spellings : RawValues :=
  .ofList ["2000", "1990", "+1990", "01990", "2005,2010", "!2003"]

def arrangedSpellings : QueryNode :=
  .and
    [.or
      [.predicate (.multiEquality "year" [.integer 1990, .integer 2000]),
       .predicate (.range "year" (some (.integer 2005)) (some (.integer 2010)))],
     .not (.predicate (.equality "year" (.integer 2003)))]

theorem parameterFilter_arranged_spellings :
    compiler.parameterFilter year spellings = .ok (some arrangedSpellings) ∧
      QueryNode.Combines (IsPartOf "year" (compiler.States year "year" spellings false))
        (IsPartOf "year" (compiler.States year "year" spellings true)) arrangedSpellings ∧
      (∀ statement ∈ arrangedSpellings.predicates,
        statement.field = "year" ∧ ∀ shape, statement ≠ .spatial "year" shape) ∧
      arrangedSpellings.notDepth ≤ 1 := by
  have compiled : compiler.parameterFilter year spellings = .ok (some arrangedSpellings) := rfl
  have isYear : compiler.catalog.fieldFor year = some "year" := by decide +kernel
  have notSpatial : ¬ compiler.catalog.isSpatialParameter year = true := by decide +kernel
  obtain ⟨field, mapped, about, combines, shapes, depth⟩ :=
    SearchCompiler.parameterFilter_arranged compiled
  obtain rfl := Option.some.inj (isYear.symm.trans mapped)
  refine ⟨compiled, combines, fun statement member => ⟨about statement member, ?_⟩, depth⟩
  exact fun shape isShape => notSpatial ((shapes statement member).1 ⟨shape, isShape⟩)

end Observations

end FacetedSearch
