import FacetedSearch.Settings.Tree

/-!
Contract: TOML tables under construction.

Owns: `Draft`, the assignments of a text so far and how each table came about, and the rules that
keep a statement from changing what an earlier one completed:
- a name is assigned once;
- a header opens a table once, and never one that dotted names have made;
- dotted names lead through tables that dotted names or the headers of inner tables have made;
- the last table of an array of tables is the one that further headers lead into.

Does not own: the text of statements.
-/

namespace FacetedSearch.Settings.Toml

/-- How the place at the end of a path came about. -/
inductive Place where
  /-- A value, with all that it contains. -/
  | value
  /-- A table with a header. -/
  | table
  /-- A table around one with a header. -/
  | implied
  /-- A table that dotted names lead through. -/
  | dotted
  /-- An array of tables with headers. -/
  | tables (count : Nat)
deriving DecidableEq, Repr

/-- The statements of a text so far, last one first. -/
structure Draft where
  places : List (List Step × Place)
  assignments : List Assignment

namespace Draft

def empty : Draft :=
  ⟨[], []⟩

/-- How the place at the end of a path came about, if there is one. -/
def placeAt? (draft : Draft) (path : List Step) : Option Place :=
  Keyed.find?In path draft.places

/-- The draft with the place at the end of a path stated. -/
def mark (draft : Draft) (path : List Step) (place : Place) : Draft :=
  { draft with places := (path, place) :: draft.places }

/-- The table that names lead to from the end of a path, made where there is none. -/
def descend? (dotted : Bool) : (names : List String) → (path : List Step) → Draft →
    Option (List Step × Draft)
  | [], path, draft => some (path, draft)
  | name :: names, path, draft =>
      let inner := path ++ [.member name]
      match draft.placeAt? inner with
      | none =>
          let made := draft.mark inner (if dotted then .dotted else .implied)
          descend? dotted names inner made
      | some .value => none
      | some .table => if dotted then none else descend? dotted names inner draft
      | some .implied | some .dotted => descend? dotted names inner draft
      | some (.tables count) =>
          descend? dotted names (inner ++ [.element ((count : Int) - 1)]) draft

/-- The draft with a value assigned to dotted names below a table. -/
def assign? (draft : Draft) (table : List Step) (names : List String) (tree : Tree) :
    Option Draft := do
  let name ← names.getLast?
  let (parent, draft) ← draft.descend? true names.dropLast table
  let path := parent ++ [.member name]
  if names.length ≠ 1 ∧ draft.placeAt? parent ≠ some .dotted then none
  else if (draft.placeAt? path).isSome then none
  else
    let marked := draft.mark path .value
    some { marked with assignments := ⟨path, tree⟩ :: marked.assignments }

def openTable? (draft : Draft) (names : List String) : Option (List Step × Draft) := do
  let name ← names.getLast?
  let (parent, draft) ← draft.descend? false names.dropLast []
  let path := parent ++ [.member name]
  match draft.placeAt? path with
  | none | some .implied => some (path, draft.mark path .table)
  | _ => none

/-- The new last table of an array of tables that a header opens. -/
def openElement? (draft : Draft) (names : List String) : Option (List Step × Draft) := do
  let name ← names.getLast?
  let (parent, draft) ← draft.descend? false names.dropLast []
  let path := parent ++ [.member name]
  let count ←
    match draft.placeAt? path with
    | none => some 0
    | some (.tables count) => some count
    | _ => none
  let element := path ++ [.element count]
  let marked := draft.mark path (.tables (count + 1))
  some (element, { marked with assignments := ⟨element, .table []⟩ :: marked.assignments })

end Draft

end FacetedSearch.Settings.Toml
