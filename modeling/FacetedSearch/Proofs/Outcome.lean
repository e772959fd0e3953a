import Mathlib.Data.List.Forall2

/-!
Contract: the outcomes of steps that may fail.

Owns:
- `map_eq_ok_iff` and `map_eq_error_iff`, the outcomes of a mapped step, which `map_eq_bind` makes
  a case of a sequence;
- `mapM_eq_ok_iff`: a traversal succeeds exactly if it succeeds at each element, in order, and
  `mapM_eq_ok_iff_map`, the case of steps that check their elements and change them;
- `exists_mem_of_mapM_eq_ok`, `exists_error_of_mapM_eq_error` and `exists_first_of_mapM_eq_error`:
  each result of a traversal is that of a step, and its failure that of the first step that fails;
- `exists_mapM_iff`: what is true of a result of a traversal, said of its elements.

Does not own: the steps.
-/

namespace FacetedSearch

variable {α β ε : Type}

theorem map_eq_ok_iff {outcome : Except ε α} {f : α → β} {value : β} :
    outcome.map f = .ok value ↔ ∃ found, outcome = .ok found ∧ f found = value := by
  cases outcome <;> simp [Except.map]

theorem map_eq_error_iff {outcome : Except ε α} {f : α → β} {error : ε} :
    outcome.map f = .error error ↔ outcome = .error error := by
  cases outcome <;> simp [Except.map]

theorem map_eq_bind (outcome : Except ε α) (f : α → β) :
    outcome.map f = outcome.bind fun value => .ok (f value) := by
  cases outcome <;> rfl

theorem mapM_cons_eq (step : α → Except ε β) (head : α) (tail : List α) :
    (head :: tail).mapM step =
      match step head with
      | .error error => .error error
      | .ok first => (tail.mapM step).map (first :: ·) := by
  rw [List.mapM_cons]
  cases step head with
  | error error => rfl
  | ok first => cases others : tail.mapM step <;> rfl

theorem mapM_eq_ok_iff (step : α → Except ε β) (list : List α) (results : List β) :
    list.mapM step = .ok results ↔
      List.Forall₂ (fun element result => step element = .ok result) list results := by
  induction list generalizing results with
  | nil => simp [pure, Except.pure, eq_comm]
  | cons head tail inductionHypothesis =>
      rw [mapM_cons_eq, List.forall₂_cons_left_iff]
      cases atHead : step head with
      | error error => simp
      | ok first =>
          simp only [map_eq_ok_iff, inductionHypothesis, Except.ok.injEq]
          grind

/-- A traversal whose steps check their elements and change them. -/
theorem mapM_eq_ok_iff_map {step : α → Except ε β} {accepts : α → Prop} {change : α → β}
    (steps : ∀ element result, step element = .ok result ↔
      accepts element ∧ change element = result) {list : List α} {results : List β} :
    list.mapM step = .ok results ↔
      (∀ element ∈ list, accepts element) ∧ list.map change = results := by
  simp only [mapM_eq_ok_iff, steps]
  rw [List.forall₂_and_left, ← List.forall₂_map_left_iff, List.forall₂_eq_eq_eq]

theorem exists_mem_of_mapM_eq_ok {step : α → Except ε β} {list : List α} {results : List β}
    (traversed : list.mapM step = .ok results) {result : β} (member : result ∈ results) :
    ∃ element ∈ list, step element = .ok result := by
  rw [mapM_eq_ok_iff] at traversed
  obtain ⟨position, below, rfl⟩ := List.getElem_of_mem member
  have inList : position < list.length := traversed.length_eq ▸ below
  exact ⟨list[position], List.getElem_mem inList, traversed.get inList below⟩

theorem exists_result_of_mapM_eq_ok {step : α → Except ε β} {list : List α} {results : List β}
    (traversed : list.mapM step = .ok results) {element : α} (member : element ∈ list) :
    ∃ result ∈ results, step element = .ok result := by
  rw [mapM_eq_ok_iff] at traversed
  obtain ⟨position, below, rfl⟩ := List.getElem_of_mem member
  have inResults : position < results.length := traversed.length_eq ▸ below
  exact ⟨results[position], List.getElem_mem inResults, traversed.get below inResults⟩

theorem exists_mapM_iff {step : α → Except ε β} {list : List α} {results : List β}
    (traversed : list.mapM step = .ok results) {ofResult : β → Prop} {ofElement : α → Prop}
    (same : ∀ element result, step element = .ok result → (ofResult result ↔ ofElement element)) :
    (∃ result ∈ results, ofResult result) ↔ ∃ element ∈ list, ofElement element := by
  constructor
  · rintro ⟨result, member, holds⟩
    obtain ⟨element, inList, step⟩ := exists_mem_of_mapM_eq_ok traversed member
    exact ⟨element, inList, (same element result step).1 holds⟩
  · rintro ⟨element, member, holds⟩
    obtain ⟨result, inResults, step⟩ := exists_result_of_mapM_eq_ok traversed member
    exact ⟨result, inResults, (same element result step).2 holds⟩

/-- A traversal fails as the first step that fails. -/
theorem exists_first_of_mapM_eq_error {step : α → Except ε β} {list : List α} {error : ε}
    (failed : list.mapM step = .error error) :
    ∃ before element after, list = before ++ element :: after ∧
      (∀ earlier ∈ before, ∃ result, step earlier = .ok result) ∧ step element = .error error := by
  induction list with
  | nil => cases failed
  | cons head tail inductionHypothesis =>
      rw [mapM_cons_eq] at failed
      cases atHead : step head with
      | error first =>
          rw [atHead] at failed
          cases failed
          exact ⟨[], head, tail, rfl, by simp, atHead⟩
      | ok first =>
          rw [atHead] at failed
          obtain ⟨before, element, after, rfl, succeed, fails⟩ :=
            inductionHypothesis (map_eq_error_iff.1 failed)
          refine ⟨head :: before, element, after, rfl, ?_, fails⟩
          exact List.forall_mem_cons.2 ⟨⟨first, atHead⟩, succeed⟩

theorem exists_error_of_mapM_eq_error {step : α → Except ε β} {list : List α} {error : ε}
    (failed : list.mapM step = .error error) : ∃ element ∈ list, step element = .error error := by
  obtain ⟨before, element, after, rfl, -, fails⟩ := exists_first_of_mapM_eq_error failed
  exact ⟨element, by simp, fails⟩

/-- A traversal succeeds exactly if all of its steps do. -/
theorem exists_mapM_eq_ok_iff {step : α → Except ε β} {list : List α} :
    (∃ results, list.mapM step = .ok results) ↔
      ∀ element ∈ list, ∃ result, step element = .ok result := by
  constructor
  · rintro ⟨results, traversed⟩ element member
    obtain ⟨result, -, succeeds⟩ := exists_result_of_mapM_eq_ok traversed member
    exact ⟨result, succeeds⟩
  · intro succeed
    cases traversed : list.mapM step with
    | ok results => exact ⟨results, rfl⟩
    | error error =>
        obtain ⟨element, member, fails⟩ := exists_error_of_mapM_eq_error traversed
        obtain ⟨result, succeeds⟩ := succeed element member
        rw [fails] at succeeds
        cases succeeds

end FacetedSearch
