import FacetedSearch.Sorting
import Mathlib.Data.List.Nodup

/-!
Contract: elements with different keys have one sorted order, and others keep theirs.

Owns:
- `sortBy_eq_of_ascending`, `sortBy_eq_sortBy` and `filter_sortBy_eq_of_filter_perm`, for keys under
  any linear order;
- `IsStableSort`, an ascending list of the same elements, those with one key in their order, and
  `isStableSort_sortBy`.

Does not own: the choice of keys.
-/

namespace FacetedSearch

variable {α κ : Type} [LE κ] [Std.IsLinearOrder κ]

/-- Two ascending orders of the same elements are equal if no two of the elements share a key. -/
theorem eq_of_ascending {key : α → κ} {left right : List α}
    (leftAscends : left.Pairwise fun first second => key first ≤ key second)
    (rightAscends : right.Pairwise fun first second => key first ≤ key second)
    (distinct : ∀ first ∈ right, ∀ second ∈ right, key first = key second → first = second)
    (same : left.Perm right) : left = right := by
  refine List.Perm.eq_of_pairwise ?_ leftAscends rightAscends same
  intro first second inLeft inRight notGreater notLess
  exact distinct first (same.mem_iff.1 inLeft) second inRight (Std.le_antisymm notGreater notLess)

variable [DecidableLE κ]

theorem ascending_sortBy (key : α → κ) (list : List α) :
    (sortBy key list).Pairwise fun first second => key first ≤ key second :=
  pairwise_sortBy key (fun _ _ => Std.le_total) Std.le_trans list

theorem sortBy_eq_of_ascending {key : α → κ} {list sorted : List α} (same : list.Perm sorted)
    (ascends : sorted.Pairwise fun first second => key first ≤ key second)
    (distinct : ∀ first ∈ sorted, ∀ second ∈ sorted, key first = key second → first = second) :
    sortBy key list = sorted :=
  eq_of_ascending (ascending_sortBy key list) ascends distinct ((sortBy_perm key list).trans same)

/-- Sorting forgets the order of elements that do not share keys. -/
theorem sortBy_eq_sortBy {key : α → κ} {left right : List α} (same : left.Perm right)
    (distinct : ∀ first ∈ right, ∀ second ∈ right, key first = key second → first = second) :
    sortBy key left = sortBy key right := by
  refine sortBy_eq_of_ascending (same.trans (sortBy_perm key right).symm)
    (ascending_sortBy key right) ?_
  simpa only [mem_sortBy] using distinct

/-- Elements that are dropped after sorting may share keys, and need not be the same. -/
theorem filter_sortBy_eq_of_filter_perm {key : α → κ} {keeps : α → Bool} {left right : List α}
    (same : (left.filter keeps).Perm (right.filter keeps))
    (distinct : ∀ first ∈ right, ∀ second ∈ right, keeps first = true → keeps second = true →
      key first = key second → first = second) :
    (sortBy key left).filter keeps = (sortBy key right).filter keeps := by
  have keptPerm : ((sortBy key left).filter keeps).Perm ((sortBy key right).filter keeps) :=
    (((sortBy_perm key left).filter keeps).trans same).trans
      ((sortBy_perm key right).filter keeps).symm
  refine eq_of_ascending ((ascending_sortBy key left).filter keeps)
    ((ascending_sortBy key right).filter keeps) ?_ keptPerm
  intro first firstKept second secondKept
  rw [List.mem_filter, mem_sortBy] at firstKept secondKept
  exact distinct first firstKept.1 second secondKept.1 firstKept.2 secondKept.2

theorem filter_sortBy_eq {key : α → κ} {keeps : α → Bool} {left right : List α}
    (same : left.Perm right)
    (distinct : ∀ first ∈ right, ∀ second ∈ right, keeps first = true → keeps second = true →
      key first = key second → first = second) :
    (sortBy key left).filter keeps = (sortBy key right).filter keeps :=
  filter_sortBy_eq_of_filter_perm (same.filter keeps) distinct

/-! ## Elements with equal keys -/

variable [DecidableEq κ]

/-- Whether a list is another one in ascending order of the keys, with the elements of each key in
the order that they had. -/
structure IsStableSort (key : α → κ) (list sorted : List α) : Prop where
  perm : sorted.Perm list
  ascending : sorted.Pairwise fun first second => key first ≤ key second
  stable : ∀ value, (sorted.filter fun element => decide (key element = value)) =
    list.filter fun element => decide (key element = value)

/-- An element is placed in front of all others with its key. -/
theorem filter_insertBy (key : α → κ) (value : κ) (element : α) (list : List α) :
    ((insertBy key element list).filter fun other => decide (key other = value)) =
      (element :: list).filter fun other => decide (key other = value) := by
  induction list with
  | nil => rfl
  | cons head tail inductionHypothesis =>
      rw [insertBy]
      split
      · rfl
      · rename_i greater
        have different : ¬ (key head = value ∧ key element = value) := by
          rintro ⟨atHead, atElement⟩
          exact greater (Std.le_of_eq (atElement.trans atHead.symm))
        rw [List.filter_cons, inductionHypothesis]
        by_cases atHead : key head = value
        · have atElement : key element ≠ value := fun same => different ⟨atHead, same⟩
          simp [atHead, atElement]
        · simp [List.filter_cons, atHead]

theorem isStableSort_sortBy (key : α → κ) (list : List α) :
    IsStableSort key list (sortBy key list) where
  perm := sortBy_perm key list
  ascending := ascending_sortBy key list
  stable := by
    intro value
    induction list with
    | nil => rfl
    | cons head tail inductionHypothesis =>
        rw [sortBy, filter_insertBy, List.filter_cons, inductionHypothesis, List.filter_cons]

end FacetedSearch
