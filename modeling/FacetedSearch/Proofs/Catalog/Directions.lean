import FacetedSearch.Catalog.Table
import Mathlib.Data.List.Induction

/-!
Contract: the two directions of a catalog that is built from declarations.

Owns:
- `IsLastOf`, the last element of a list with its key, and `Keyed.find?_foldl_insert_iff`: a map
  into which a list is written has for each key the value of the last element with this key;
- `mappings`, the parameters and fields that declarations map to each other, and `foldl_declare`:
  all other declarations leave both directions as they are;
- `fieldFor_eq_some_iff` and `parameterFor_eq_some_iff`: each direction has the last mappings of its
  keys;
- `LeftFieldsTaken`: each field whose parameter is mapped again is mapped again itself;
- `directions_agree_iff`: the parameter of each field is mapped to this field exactly if the fields
  that parameters leave are taken.

A parameter that is mapped again leaves its field, and the field keeps naming the parameter until
another one takes it. Both directions are written together, but each forgets by its own key.

Does not own: catalogs that are not built from declarations.
-/

namespace FacetedSearch

/-! ## Last elements -/

/-- Whether no later element of a list has the key of the element. -/
def IsLastOf {α κ : Type} (key : α → κ) (list : List α) (element : α) : Prop :=
  ∃ earlier later, list = earlier ++ element :: later ∧ ∀ other ∈ later, key other ≠ key element

section LastElements

variable {α κ : Type} {key : α → κ}

theorem not_isLastOf_nil (element : α) : ¬ IsLastOf key [] element := by
  rintro ⟨earlier, later, split, -⟩
  simp at split

theorem isLastOf_concat_iff {list : List α} {added element : α} :
    IsLastOf key (list ++ [added]) element ↔
      element = added ∨ (IsLastOf key list element ∧ key added ≠ key element) := by
  constructor
  · rintro ⟨earlier, later, split, noneLater⟩
    rcases List.eq_nil_or_concat later with isNil | ⟨before, ending, isConcat⟩
    · subst isNil
      have sameEnd := (List.append_inj' split rfl).2
      exact .inl (List.singleton_inj.1 sameEnd).symm
    · subst isConcat
      rw [List.concat_eq_append, ← List.cons_append, ← List.append_assoc] at split
      obtain ⟨sameList, sameEnd⟩ := List.append_inj' split rfl
      have isAdded : added = ending := List.singleton_inj.1 sameEnd
      have different : key added ≠ key element := isAdded ▸ noneLater ending (by simp)
      refine .inr ⟨⟨earlier, before, sameList, fun other member => ?_⟩, different⟩
      exact noneLater other (by simp [member])
  · rintro (rfl | ⟨⟨earlier, later, rfl, noneLater⟩, different⟩)
    · exact ⟨list, [], rfl, by simp⟩
    · refine ⟨earlier, later ++ [added], by simp, fun other member => ?_⟩
      rcases List.mem_append.1 member with inLater | isAdded
      · exact noneLater other inLater
      · exact List.mem_singleton.1 isAdded ▸ different

theorem IsLastOf.append {list : List α} {element : α} (isLast : IsLastOf key list element)
    (front : List α) : IsLastOf key (front ++ list) element := by
  obtain ⟨earlier, later, rfl, noneLater⟩ := isLast
  exact ⟨front ++ earlier, later, by simp, noneLater⟩

theorem IsLastOf.mem {list : List α} {element : α} (isLast : IsLastOf key list element) :
    element ∈ list := by
  obtain ⟨earlier, later, rfl, -⟩ := isLast
  simp

theorem exists_isLastOf (key : α → κ) {list : List α} {element : α} (member : element ∈ list) :
    ∃ last, IsLastOf key list last ∧ key last = key element := by
  induction list using List.reverseRecOn with
  | nil => cases member
  | append_singleton list added inductionHypothesis =>
      by_cases same : key added = key element
      · exact ⟨added, isLastOf_concat_iff.2 (.inl rfl), same⟩
      · rcases List.mem_append.1 member with inList | isAdded
        · obtain ⟨last, isLast, sameKey⟩ := inductionHypothesis inList
          have different : key added ≠ key last := sameKey ▸ same
          exact ⟨last, isLastOf_concat_iff.2 (.inr ⟨isLast, different⟩), sameKey⟩
        · exact absurd (congrArg key (List.mem_singleton.1 isAdded).symm) same

/-- A map into which a list is written, element by element, has the values of the last elements. -/
theorem Keyed.find?_foldl_insert_iff [DecidableEq κ] {β : Type} (value : α → β) (list : List α)
    (wanted : κ) (found : β) :
    (list.foldl (fun map element => map.insert (key element) (value element))
        (.empty : Keyed κ β)).find? wanted = some found ↔
      ∃ element, IsLastOf key list element ∧ key element = wanted ∧ value element = found := by
  induction list using List.reverseRecOn with
  | nil => simp [find?_empty, not_isLastOf_nil]
  | append_singleton list added inductionHypothesis =>
      rw [List.foldl_append, List.foldl_cons, List.foldl_nil]
      simp only [isLastOf_concat_iff]
      by_cases same : key added = wanted
      · subst same
        rw [find?_insert_self]
        grind
      · rw [find?_insert_of_ne _ (Ne.symm same), inductionHypothesis]
        grind

end LastElements

variable {P : Type}

/-! ## Fields that parameters leave -/

namespace CatalogTable

/-- Whether each field whose parameter is mapped again is mapped again itself. -/
def LeftFieldsTaken (mappings : List (P × String)) : Prop :=
  ∀ earlier parameter field later, mappings = earlier ++ (parameter, field) :: later →
    (∃ next, (parameter, next) ∈ later) → ∃ taker, (taker, field) ∈ later

theorem leftFieldsTaken_nil : LeftFieldsTaken ([] : List (P × String)) := by
  intro earlier parameter field later split
  simp at split

theorem leftFieldsTaken_cons_iff {parameter : P} {field : String} {later : List (P × String)} :
    LeftFieldsTaken ((parameter, field) :: later) ↔
      ((∃ next, (parameter, next) ∈ later) → ∃ taker, (taker, field) ∈ later) ∧
        LeftFieldsTaken later := by
  constructor
  · intro taken
    refine ⟨taken [] parameter field later rfl, ?_⟩
    intro earlier other otherField rest split
    exact taken ((parameter, field) :: earlier) other otherField rest (by rw [split]; rfl)
  · intro both earlier other otherField rest split
    cases earlier with
    | nil =>
        cases split
        exact both.1
    | cons first earlier =>
        cases split
        exact both.2 earlier other otherField rest rfl

end CatalogTable

/-! ## Mappings -/

/-- The parameter and the field that a declaration maps to each other. -/
def Declaration.mapping? : Declaration P → Option (P × String)
  | .field parameter mapped => some (parameter, mapped)
  | .dateField parameter mapped => some (parameter, mapped)
  | .spatialField parameter mapped => some (parameter, mapped)
  | _ => none

namespace CatalogTable

variable [SearchParameter P]

/-- The parameters and fields that declarations map to each other, in their order. -/
def mappings (declarations : List (Declaration P)) : List (P × String) :=
  declarations.filterMap Declaration.mapping?

theorem fields_declare (table : CatalogTable P) (declaration : Declaration P) :
    (table.declare declaration).fields =
      declaration.mapping?.elim table.fields fun mapping =>
        table.fields.insert mapping.1 mapping.2 := by
  cases declaration <;> rfl

theorem parameters_declare (table : CatalogTable P) (declaration : Declaration P) :
    (table.declare declaration).parameters =
      declaration.mapping?.elim table.parameters fun mapping =>
        table.parameters.insert mapping.2 mapping.1 := by
  cases declaration <;> rfl

/-- What only mappings change depends on the mappings alone. -/
theorem foldl_declare {α : Type} (view : CatalogTable P → α) (write : α → P × String → α)
    (step : ∀ (table : CatalogTable P) (declaration : Declaration P),
      view (table.declare declaration) =
        declaration.mapping?.elim (view table) (write (view table)))
    (table : CatalogTable P) (declarations : List (Declaration P)) :
    view (declarations.foldl declare table) = (mappings declarations).foldl write (view table) := by
  induction declarations generalizing table with
  | nil => rfl
  | cons declaration rest inductionHypothesis =>
      rw [List.foldl_cons, inductionHypothesis, step, mappings, mappings, List.filterMap_cons]
      cases declaration.mapping? <;> rfl

/-- A parameter filters the field of its last mapping. -/
theorem fieldFor_eq_some_iff (declarations : List (Declaration P)) (parameter : P)
    (field : String) :
    (ofDeclarations declarations).catalog.fieldFor parameter = some field ↔
      IsLastOf Prod.fst (mappings declarations) (parameter, field) := by
  have written := foldl_declare fields (fun fields mapping => fields.insert mapping.1 mapping.2)
    fields_declare empty declarations
  show (declarations.foldl declare empty).fields.find? parameter = some field ↔ _
  rw [written]
  exact (Keyed.find?_foldl_insert_iff Prod.snd _ _ _).trans (by simp)

/-- A field is filtered by the parameter of its last mapping. -/
theorem parameterFor_eq_some_iff (declarations : List (Declaration P)) (field : String)
    (parameter : P) :
    (ofDeclarations declarations).catalog.parameterFor field = some parameter ↔
      IsLastOf Prod.snd (mappings declarations) (parameter, field) := by
  have written := foldl_declare parameters
    (fun parameters mapping => parameters.insert mapping.2 mapping.1)
    parameters_declare empty declarations
  show (declarations.foldl declare empty).parameters.find? field = some parameter ↔ _
  rw [written]
  exact (Keyed.find?_foldl_insert_iff Prod.fst _ _ _).trans (by simp)

/-! ## Agreement -/

/-- Whether the parameter of each field is mapped to this field. -/
def DirectionsAgree (catalog : FieldCatalog P) : Prop :=
  ∀ field parameter, catalog.parameterFor field = some parameter →
    catalog.fieldFor parameter = some field

theorem leftFieldsTaken_of_directionsAgree {declarations : List (Declaration P)}
    (agree : DirectionsAgree (ofDeclarations declarations).catalog) :
    LeftFieldsTaken (mappings declarations) := by
  intro earlier parameter field later split mappedAgain
  by_contra notTaken
  have isLastOfField : IsLastOf Prod.snd (mappings declarations) (parameter, field) := by
    refine ⟨earlier, later, split, ?_⟩
    intro other member sameField
    cases sameField
    exact notTaken ⟨other.1, member⟩
  have forward := agree field parameter
    ((parameterFor_eq_some_iff declarations field parameter).2 isLastOfField)
  -- The last mapping of the parameter comes later, and by agreement it is to the same field.
  obtain ⟨next, nextMember⟩ := mappedAgain
  obtain ⟨⟨mapped, lastField⟩, isLast, rfl⟩ := exists_isLastOf Prod.fst nextMember
  have isLastOfAll := isLast.append (earlier ++ [(mapped, field)])
  rw [List.append_assoc, List.singleton_append, ← split] at isLastOfAll
  have last := (fieldFor_eq_some_iff declarations _ lastField).2 isLastOfAll
  have sameField : field = lastField := Option.some.inj (forward.symm.trans last)
  exact notTaken ⟨_, sameField ▸ isLast.mem⟩

theorem directionsAgree_of_leftFieldsTaken {declarations : List (Declaration P)}
    (taken : LeftFieldsTaken (mappings declarations)) :
    DirectionsAgree (ofDeclarations declarations).catalog := by
  intro field parameter backward
  obtain ⟨earlier, later, split, noneLater⟩ :=
    (parameterFor_eq_some_iff declarations field parameter).1 backward
  apply (fieldFor_eq_some_iff declarations parameter field).2
  refine ⟨earlier, later, split, ?_⟩
  intro again member sameParameter
  have mappedAgain : ∃ next, (parameter, next) ∈ later := by
    cases sameParameter
    exact ⟨again.2, member⟩
  obtain ⟨taker, takenLater⟩ := taken earlier parameter field later split mappedAgain
  exact noneLater (taker, field) takenLater rfl

/-- **The directions of a catalog agree exactly if fields that parameters leave are taken.** The
field of a parameter is that of its last mapping and the parameter of a field is that of its last
mapping, whatever else is declared between. -/
theorem directions_agree_iff (declarations : List (Declaration P)) :
    let catalog := (ofDeclarations declarations).catalog
    (∀ parameter field, catalog.fieldFor parameter = some field ↔
      IsLastOf Prod.fst (mappings declarations) (parameter, field)) ∧
    (∀ field parameter, catalog.parameterFor field = some parameter ↔
      IsLastOf Prod.snd (mappings declarations) (parameter, field)) ∧
    (DirectionsAgree catalog ↔ LeftFieldsTaken (mappings declarations)) :=
  ⟨fieldFor_eq_some_iff declarations, parameterFor_eq_some_iff declarations,
    leftFieldsTaken_of_directionsAgree, directionsAgree_of_leftFieldsTaken⟩

end CatalogTable

/-! ## Observations of species -/

namespace Observations

def region : DeclaredParameter := ⟨"REGION", .text⟩

def continent : DeclaredParameter := ⟨"CONTINENT", .text⟩

/-- A region that moves to another field, and a continent that takes the one it leaves. -/
def exchanged : List (Declaration DeclaredParameter) :=
  [.field region "area", .cardinality "area" 7, .field region "regionCode", .field continent "area"]

/-- A region that moves to another field. -/
def moved : List (Declaration DeclaredParameter) :=
  [.field region "area", .field region "regionCode"]

theorem directions_agree_iff_exchanged :
    CatalogTable.DirectionsAgree (CatalogTable.ofDeclarations exchanged).catalog ∧
      ¬ CatalogTable.LeftFieldsTaken (CatalogTable.mappings moved) := by
  obtain ⟨-, -, exchangedAgree⟩ := CatalogTable.directions_agree_iff exchanged
  obtain ⟨-, -, movedAgree⟩ := CatalogTable.directions_agree_iff moved
  constructor
  · apply exchangedAgree.2
    show CatalogTable.LeftFieldsTaken
      [(region, "area"), (region, "regionCode"), (continent, "area")]
    simp only [CatalogTable.leftFieldsTaken_cons_iff, CatalogTable.leftFieldsTaken_nil]
    simp [region, continent]
  · intro taken
    have backward : (CatalogTable.ofDeclarations moved).catalog.parameterFor "area" =
        some region := by decide +kernel
    have forward := movedAgree.2 taken "area" region backward
    exact absurd forward (by decide +kernel)

/-- A region that moves to another field is still named by the field it leaves. -/
theorem left_field_names_parameter :
    (CatalogTable.ofDeclarations moved).catalog.parameterFor "area" = some region ∧
      (CatalogTable.ofDeclarations moved).catalog.fieldFor region = some "regionCode" ∧
      ¬ ∀ field parameter,
        (CatalogTable.ofDeclarations moved).catalog.parameterFor field = some parameter →
          (CatalogTable.ofDeclarations moved).catalog.fieldFor parameter = some field := by
  refine ⟨by decide +kernel, by decide +kernel, fun agree => ?_⟩
  have forward := agree "area" region (by decide +kernel)
  exact absurd forward (by decide +kernel)

end Observations

end FacetedSearch
