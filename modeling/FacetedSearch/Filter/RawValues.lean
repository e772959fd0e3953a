/-!
Contract: the raw values that a request selects for one parameter.

Owns: `RawValues`, a set of texts in ascending order, each once.
Does not own: what the texts mean.
-/

namespace FacetedSearch

/-- A set of texts. -/
structure RawValues where
  values : List String
  ascending : values.Pairwise (· < ·)
deriving DecidableEq

namespace RawValues

def empty : RawValues :=
  ⟨[], .nil⟩

instance : Inhabited RawValues :=
  ⟨empty⟩

/-- An ascending list with a text put in its place, once. -/
def insertIn (value : String) : List String → List String
  | [] => [value]
  | head :: tail =>
      if value < head then value :: head :: tail
      else if value = head then head :: tail
      else head :: insertIn value tail

theorem mem_insertIn (value other : String) :
    ∀ values : List String, other ∈ insertIn value values ↔ other = value ∨ other ∈ values
  | [] => by simp [insertIn]
  | head :: tail => by
      by_cases less : value < head
      · simp [insertIn, less]
      · by_cases same : value = head
        · subst same
          simp [insertIn]
        · simp only [insertIn, if_neg less, if_neg same, List.mem_cons,
            mem_insertIn value other tail]
          exact or_left_comm

theorem pairwise_insertIn (value : String) :
    ∀ {values : List String}, values.Pairwise (· < ·) → (insertIn value values).Pairwise (· < ·)
  | [], _ => by simp [insertIn]
  | head :: tail, ascending => by
      have headLess := (List.pairwise_cons.1 ascending).1
      have tailAscending := (List.pairwise_cons.1 ascending).2
      by_cases less : value < head
      · simp only [insertIn, if_pos less]
        refine List.pairwise_cons.2 ⟨fun other member => ?_, ascending⟩
        rcases List.mem_cons.1 member with same | inTail
        · exact same ▸ less
        · exact String.lt_trans less (headLess other inTail)
      · by_cases same : value = head
        · simpa [insertIn, less, same] using ascending
        · simp only [insertIn, if_neg less, if_neg same]
          refine List.pairwise_cons.2
            ⟨fun other member => ?_, pairwise_insertIn value tailAscending⟩
          rcases (mem_insertIn value other tail).1 member with isValue | inTail
          · subst isValue
            exact Decidable.byContradiction fun notLess =>
              same (String.le_antisymm (String.not_lt.1 notLess) (String.not_lt.1 less))
          · exact headLess other inTail

def insert (set : RawValues) (value : String) : RawValues :=
  ⟨insertIn value set.values, pairwise_insertIn value set.ascending⟩

def ofList (values : List String) : RawValues :=
  values.foldl insert empty

@[simp] theorem mem_insert (set : RawValues) (value other : String) :
    other ∈ (set.insert value).values ↔ other = value ∨ other ∈ set.values :=
  mem_insertIn value other set.values

end RawValues

end FacetedSearch
