/-!
Contract: stable sorting of short lists by a key.

Owns:
- `sortBy`, insertion in front of the first element with a key that is not smaller; elements with
  equal keys keep their order;
- `sortBy_perm` and `pairwise_sortBy`: nothing is lost or added, and the result ascends.

Does not own: the choice of keys.
-/

namespace FacetedSearch

variable {α κ : Type} [LE κ] [DecidableLE κ]

/-- The list with the element placed before the first one whose key is not smaller. -/
def insertBy (key : α → κ) (element : α) : List α → List α
  | [] => [element]
  | head :: tail =>
      if key element ≤ key head then element :: head :: tail
      else head :: insertBy key element tail

/-- The list in ascending order of the keys; equal keys keep their order. -/
def sortBy (key : α → κ) : List α → List α
  | [] => []
  | head :: tail => insertBy key head (sortBy key tail)

theorem insertBy_perm (key : α → κ) (element : α) (list : List α) :
    (insertBy key element list).Perm (element :: list) := by
  induction list with
  | nil => exact .refl _
  | cons head tail inductionHypothesis =>
      rw [insertBy]
      split
      · exact .refl _
      · exact (inductionHypothesis.cons head).trans (.swap element head tail)

/-- Sorting keeps every element as often as it occurs. -/
theorem sortBy_perm (key : α → κ) (list : List α) : (sortBy key list).Perm list := by
  induction list with
  | nil => exact .refl _
  | cons head tail inductionHypothesis =>
      exact (insertBy_perm key head _).trans (inductionHypothesis.cons head)

theorem mem_sortBy (key : α → κ) (element : α) (list : List α) :
    element ∈ sortBy key list ↔ element ∈ list :=
  (sortBy_perm key list).mem_iff

theorem pairwise_insertBy (key : α → κ) (total : ∀ left right : κ, left ≤ right ∨ right ≤ left)
    (transitive : ∀ {first second third : κ}, first ≤ second → second ≤ third → first ≤ third)
    (element : α) {list : List α}
    (ascending : list.Pairwise fun left right => key left ≤ key right) :
    (insertBy key element list).Pairwise fun left right => key left ≤ key right := by
  induction list with
  | nil => exact List.pairwise_singleton _ _
  | cons head tail inductionHypothesis =>
      obtain ⟨headFirst, tailAscending⟩ := List.pairwise_cons.1 ascending
      rw [insertBy]
      split
      · rename_i before
        refine List.pairwise_cons.2 ⟨fun other member => ?_, ascending⟩
        rcases List.mem_cons.1 member with same | inTail
        · exact same ▸ before
        · exact transitive before (headFirst other inTail)
      · rename_i notBefore
        refine List.pairwise_cons.2 ⟨fun other member => ?_, inductionHypothesis tailAscending⟩
        rcases List.mem_cons.1 ((insertBy_perm key element tail).mem_iff.1 member) with
          same | inTail
        · exact same ▸ (total (key head) (key element)).resolve_right notBefore
        · exact headFirst other inTail

/-- Under a total order of the keys the sorted list ascends. -/
theorem pairwise_sortBy (key : α → κ) (total : ∀ left right : κ, left ≤ right ∨ right ≤ left)
    (transitive : ∀ {first second third : κ}, first ≤ second → second ≤ third → first ≤ third)
    (list : List α) :
    (sortBy key list).Pairwise fun left right => key left ≤ key right := by
  induction list with
  | nil => exact .nil
  | cons head tail inductionHypothesis =>
      exact pairwise_insertBy key total transitive head inductionHypothesis

end FacetedSearch
