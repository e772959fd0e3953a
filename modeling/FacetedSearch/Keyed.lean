/-!
Contract: finite maps as lists of entries with pairwise different keys.

Owns:
- `Keyed`, whose type keeps the keys different;
- reading, writing and filtering of entries, with what a read finds after a write.

A new key goes to the end and a present key keeps its place, so the order of the entries is
the order in which the keys arrived. Nothing in the library depends on that order unless a
statement says so.

Does not own: maps that are written out sorted.
-/

namespace FacetedSearch

/-- A finite map from `κ` to `α`. -/
structure Keyed (κ α : Type) where
  entries : List (κ × α)
  distinctKeys : (entries.map Prod.fst).Nodup

namespace Keyed

variable {κ α : Type}

def empty : Keyed κ α :=
  ⟨[], List.nodup_nil⟩

instance : Inhabited (Keyed κ α) :=
  ⟨empty⟩

/-- The keys in order of arrival. -/
def keys (map : Keyed κ α) : List κ :=
  map.entries.map Prod.fst

def filterKeys (keeps : κ → Bool) (map : Keyed κ α) : Keyed κ α where
  entries := map.entries.filter fun entry => keeps entry.1
  distinctKeys := map.distinctKeys.sublist (List.filter_sublist.map Prod.fst)

variable [DecidableEq κ]

/-- The value of a key in a list of entries. -/
def find?In (key : κ) : List (κ × α) → Option α
  | [] => none
  | entry :: rest => if entry.1 = key then some entry.2 else find?In key rest

def find? (map : Keyed κ α) (key : κ) : Option α :=
  find?In key map.entries

/-- The entries with a key written: in its place if it is present, else at the end. -/
def insertIn (key : κ) (value : α) : List (κ × α) → List (κ × α)
  | [] => [(key, value)]
  | entry :: rest =>
      if entry.1 = key then (key, value) :: rest else entry :: insertIn key value rest

theorem mem_keys_insertIn (key : κ) (value : α) (other : κ) :
    ∀ entries : List (κ × α),
      other ∈ (insertIn key value entries).map Prod.fst ↔
        other = key ∨ other ∈ entries.map Prod.fst
  | [] => by simp [insertIn]
  | entry :: rest => by
      by_cases same : entry.1 = key
      · simp [insertIn, same]
      · simp only [insertIn, if_neg same, List.map_cons, List.mem_cons,
          mem_keys_insertIn key value other rest]
        exact or_left_comm

theorem nodup_insertIn (key : κ) (value : α) :
    ∀ {entries : List (κ × α)}, (entries.map Prod.fst).Nodup →
      ((insertIn key value entries).map Prod.fst).Nodup
  | [], _ => by simp [insertIn]
  | entry :: rest, distinct => by
      rw [List.map_cons, List.nodup_cons] at distinct
      by_cases same : entry.1 = key
      · simpa [insertIn, same] using distinct
      · simp only [insertIn, if_neg same, List.map_cons, List.nodup_cons,
          mem_keys_insertIn, not_or]
        exact ⟨⟨same, distinct.1⟩, nodup_insertIn key value distinct.2⟩

/-- The map with a key written. -/
def insert (map : Keyed κ α) (key : κ) (value : α) : Keyed κ α :=
  ⟨insertIn key value map.entries, nodup_insertIn key value map.distinctKeys⟩

/-- The map of a list of entries; of several entries with one key the last counts. -/
def ofEntries (entries : List (κ × α)) : Keyed κ α :=
  entries.foldl (fun map entry => map.insert entry.1 entry.2) empty

theorem find?In_insertIn_self (key : κ) (value : α) (entries : List (κ × α)) :
    find?In key (insertIn key value entries) = some value := by
  induction entries with
  | nil => simp [insertIn, find?In]
  | cons entry rest inductionHypothesis =>
      by_cases same : entry.1 = key
      · simp [insertIn, find?In, same]
      · simp [insertIn, find?In, same, inductionHypothesis]

theorem find?In_insertIn_of_ne {key other : κ} (different : other ≠ key) (value : α)
    (entries : List (κ × α)) :
    find?In other (insertIn key value entries) = find?In other entries := by
  induction entries with
  | nil => simp [insertIn, find?In, different.symm]
  | cons entry rest inductionHypothesis =>
      by_cases same : entry.1 = key
      · simp [insertIn, find?In, same, different.symm]
      · simp [insertIn, find?In, same, inductionHypothesis]

@[simp] theorem find?_insert_self (map : Keyed κ α) (key : κ) (value : α) :
    (map.insert key value).find? key = some value :=
  find?In_insertIn_self key value map.entries

theorem find?_insert_of_ne (map : Keyed κ α) {key other : κ} (different : other ≠ key)
    (value : α) : (map.insert key value).find? other = map.find? other :=
  find?In_insertIn_of_ne different value map.entries

theorem find?_empty (key : κ) : (empty : Keyed κ α).find? key = none :=
  rfl

theorem find?In_eq_some_iff {key : κ} {value : α} {entries : List (κ × α)}
    (distinct : (entries.map Prod.fst).Nodup) :
    find?In key entries = some value ↔ (key, value) ∈ entries := by
  induction entries with
  | nil => simp [find?In]
  | cons entry rest inductionHypothesis =>
      obtain ⟨entryKey, entryValue⟩ := entry
      rw [List.map_cons, List.nodup_cons] at distinct
      rw [find?In, List.mem_cons]
      by_cases same : entryKey = key
      · subst same
        have absent : (entryKey, value) ∉ rest := fun member =>
          distinct.1 (List.mem_map.2 ⟨_, member, rfl⟩)
        simp [absent, eq_comm]
      · rw [if_neg same, inductionHypothesis distinct.2]
        simp [Ne.symm same]

/-- A key has a value exactly when the two are an entry. -/
theorem find?_eq_some_iff (map : Keyed κ α) (key : κ) (value : α) :
    map.find? key = some value ↔ (key, value) ∈ map.entries :=
  find?In_eq_some_iff map.distinctKeys

end Keyed

end FacetedSearch
