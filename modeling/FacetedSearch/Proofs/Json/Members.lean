import FacetedSearch.Json.Decoding
import Mathlib.Data.List.Forall2
import Mathlib.Data.List.Nodup

/-!
Contract: the members of objects, sorted and decoded.

Owns:
- `memberOf?_sortMembers`: of several members with one key the last counts, whatever the order of
  the others, and `sortMembers_perm`: with different keys nothing is lost or added;
- `Document.ofMembers` and `value_ofMembers`: an object with different keys is read member by
  member;
- `pick?_ofMembers` and `read?_ofMembers`, the record that such an object is, and
  `exists_defaulted?_eq_some` for its fields that may be absent.

Does not own: the form of any record.
-/

namespace FacetedSearch.Json

/-! ## Look-up -/

namespace Value

theorem memberOf?_append (key : String) (first second : List (String × Value)) :
    memberOf? key (first ++ second) = (memberOf? key first).or (memberOf? key second) := by
  induction first with
  | nil => rfl
  | cons member rest inductionHypothesis =>
      by_cases here : member.1 = key
      · simp [memberOf?, here]
      · simp [memberOf?, here, inductionHypothesis]

theorem memberOf?_eq_none_iff (key : String) (members : List (String × Value)) :
    memberOf? key members = none ↔ key ∉ members.map Prod.fst := by
  induction members with
  | nil => simp [memberOf?]
  | cons member rest inductionHypothesis =>
      by_cases here : member.1 = key
      · simp [memberOf?, here]
      · simp [memberOf?, here, inductionHypothesis, Ne.symm here]

theorem mem_of_memberOf?_eq_some {key : String} {value : Value}
    {members : List (String × Value)} (found : memberOf? key members = some value) :
    (key, value) ∈ members := by
  induction members with
  | nil => cases found
  | cons member rest inductionHypothesis =>
      rw [memberOf?] at found
      split at found
      · rename_i here
        cases found
        exact here ▸ List.mem_cons_self
      · exact List.mem_cons_of_mem member (inductionHypothesis found)

/-- A key has the value that all members with that key have. -/
theorem memberOf?_eq_some_of_forall {key : String} {value : Value}
    {members : List (String × Value)} (present : key ∈ members.map Prod.fst)
    (same : ∀ member ∈ members, member.1 = key → member.2 = value) :
    memberOf? key members = some value := by
  cases found : memberOf? key members with
  | none => exact absurd present ((memberOf?_eq_none_iff key members).1 found)
  | some other => exact congrArg some (same _ (mem_of_memberOf?_eq_some found) rfl)

theorem memberOf?_writeMember (key other : String) (value : Value)
    (members : List (String × Value)) :
    memberOf? other (writeMember key value members) =
      if key = other then some value else memberOf? other members := by
  induction members with
  | nil => rfl
  | cons member rest inductionHypothesis =>
      rw [writeMember]
      split
      · rfl
      · split
        · rename_i here
          rw [memberOf?, memberOf?, ← here]
          split <;> rfl
        · rename_i elsewhere
          rw [memberOf?, inductionHypothesis, memberOf?]
          by_cases here : member.1 = other
          · rw [if_pos here, if_pos here, if_neg fun same => elsewhere (same.trans here.symm)]
          · rw [if_neg here, if_neg here]

/-- Of several members with one key the last counts. -/
theorem memberOf?_sortMembers (key : String) (members : List (String × Value)) :
    memberOf? key (sortMembers members) = memberOf? key members.reverse := by
  rw [sortMembers, ← List.foldr_reverse]
  induction members.reverse with
  | nil => rfl
  | cons member rest inductionHypothesis =>
      rw [List.foldr_cons, memberOf?_writeMember, inductionHypothesis]
      rfl

theorem memberOf?_sortMembers_eq_some {key : String} {value : Value}
    {members : List (String × Value)} (present : key ∈ members.map Prod.fst)
    (same : ∀ member ∈ members, member.1 = key → member.2 = value) :
    memberOf? key (sortMembers members) = some value := by
  rw [memberOf?_sortMembers]
  apply memberOf?_eq_some_of_forall
  · simpa using present
  · exact fun member inMembers => same member (List.mem_reverse.1 inMembers)

end Value

/-! ## Order -/

theorem writeMember_perm {α : Type} {key : String} (value : α) {members : List (String × α)}
    (fresh : key ∉ members.map Prod.fst) :
    (writeMember key value members).Perm ((key, value) :: members) := by
  induction members with
  | nil => exact .refl _
  | cons member rest inductionHypothesis =>
      rw [List.map_cons, List.mem_cons, not_or] at fresh
      rw [writeMember, if_neg fresh.1]
      split
      · exact .refl _
      · exact ((inductionHypothesis fresh.2).cons member).trans (.swap _ _ _)

/-- Members with different keys are only reordered. -/
theorem sortMembers_perm {α : Type} {members : List (String × α)}
    (distinct : (members.map Prod.fst).Nodup) : (sortMembers members).Perm members := by
  rw [sortMembers, ← List.foldr_reverse]
  refine List.Perm.trans ?_ (List.reverse_perm members)
  -- Members are written from the first on, so the induction is on the reversed list.
  have distinctReverse : (members.reverse.map Prod.fst).Nodup := by
    rw [List.map_reverse]
    exact List.nodup_reverse.2 distinct
  generalize members.reverse = reversed at distinctReverse ⊢
  induction reversed with
  | nil => exact .refl _
  | cons member rest inductionHypothesis =>
      rw [List.map_cons, List.nodup_cons] at distinctReverse
      have sorted := inductionHypothesis distinctReverse.2
      rw [List.foldr_cons]
      refine (writeMember_perm member.2 fun present => ?_).trans (sorted.cons member)
      exact distinctReverse.1 ((sorted.map Prod.fst).mem_iff.1 present)

/-! ## Documents -/

/-- The object with the given members. -/
def Document.ofMembers (members : List (String × Document)) : Document :=
  .object (members.map fun member => (some member.1, member.2))

namespace Decoder

/-- A member as a document and as a value. -/
abbrev ReadsMember {α : Type} (decoder : Document → Option α) (member : String × Document)
    (read : String × α) : Prop :=
  read.1 = member.1 ∧ decoder member.2 = some read.2

theorem values_eq_some {allowance : Nat} {documents : List Document} {results : List Value}
    (read : List.Forall₂ (fun document result => value allowance document = some result)
      documents results) : values allowance documents = some results := by
  induction read with
  | nil => rfl
  | cons first _ inductionHypothesis => rw [values, first, inductionHypothesis]

theorem eachMember?_eq_some {α : Type} {decoder : Document → Option α}
    {members : List (String × Document)} {results : List (String × α)}
    (read : List.Forall₂ (ReadsMember decoder) members results) :
    eachMember? decoder (members.map fun member => (some member.1, member.2)) = some results := by
  induction read with
  | nil => rfl
  | cons first _ inductionHypothesis =>
      simp only [List.map_cons, eachMember?, first.2, inductionHypothesis, ← first.1]

theorem exists_forall₂_readsMember {α : Type} {decoder : Document → Option α}
    {members : List (String × Document)}
    (readable : ∀ member ∈ members, ∃ result, decoder member.2 = some result) :
    ∃ results, List.Forall₂ (ReadsMember decoder) members results := by
  induction members with
  | nil => exact ⟨[], .nil⟩
  | cons member rest inductionHypothesis =>
      obtain ⟨result, read⟩ := readable member List.mem_cons_self
      obtain ⟨results, readRest⟩ :=
        inductionHypothesis fun other inRest => readable other (List.mem_cons_of_mem _ inRest)
      exact ⟨(member.1, result) :: results, .cons ⟨rfl, read⟩ readRest⟩

theorem map_fst_of_forall₂ {α : Type} {decoder : Document → Option α}
    {members : List (String × Document)} {results : List (String × α)}
    (read : List.Forall₂ (ReadsMember decoder) members results) :
    results.map Prod.fst = members.map Prod.fst := by
  induction read with
  | nil => rfl
  | cons first _ inductionHypothesis =>
      rw [List.map_cons, List.map_cons, first.1, inductionHypothesis]

theorem exists_member_of_mem {α : Type} {decoder : Document → Option α}
    {members : List (String × Document)} {results : List (String × α)}
    (read : List.Forall₂ (ReadsMember decoder) members results) {result : String × α}
    (present : result ∈ results) : ∃ member ∈ members, ReadsMember decoder member result := by
  induction read with
  | nil => cases present
  | @cons first _ rest _ here _ inductionHypothesis =>
      rcases List.mem_cons.1 present with rfl | inRest
      · exact ⟨first, List.mem_cons_self, here⟩
      · obtain ⟨member, inMembers, reads⟩ := inductionHypothesis inRest
        exact ⟨member, List.mem_cons_of_mem first inMembers, reads⟩

/-- The members of an object with different keys are read one by one, into ascending order. -/
theorem map_ofMembers {α : Type} {decoder : Decoder α} {allowance : Nat}
    {members : List (String × Document)} (distinct : (members.map Prod.fst).Nodup)
    (readable : ∀ member ∈ members, ∃ result, decoder allowance member.2 = some result) :
    ∃ results, map decoder (allowance + 1) (.ofMembers members) = some results ∧
      (results.map Prod.fst).Perm (members.map Prod.fst) ∧
      ∀ result ∈ results, ∃ member ∈ members, ReadsMember (decoder allowance) member result := by
  obtain ⟨results, read⟩ := exists_forall₂_readsMember readable
  have keys := map_fst_of_forall₂ read
  have sorted : (sortMembers results).Perm results := sortMembers_perm (keys ▸ distinct)
  refine ⟨sortMembers results, ?_, keys ▸ sorted.map Prod.fst, ?_⟩
  · rw [Document.ofMembers, map, eachMember?_eq_some read]
    rfl
  · exact fun result present => exists_member_of_mem read (sorted.mem_iff.1 present)

theorem memberValues_eq_eachMember? (allowance : Nat) (members : List (Option String × Document)) :
    memberValues allowance members = eachMember? (value allowance) members := by
  induction members with
  | nil => rfl
  | cons member rest inductionHypothesis =>
      obtain ⟨key, document⟩ := member
      rw [memberValues.eq_def, eachMember?.eq_def]
      dsimp only
      rw [inductionHypothesis]
      cases key <;> cases value allowance document <;>
        cases eachMember? (value allowance) rest <;> rfl

theorem value_ofMembers (allowance : Nat) (members : List (String × Document)) :
    value (allowance + 1) (.ofMembers members) =
      (map value (allowance + 1) (.ofMembers members)).map .object := by
  rw [Document.ofMembers, value, map, memberValues_eq_eachMember?, Option.map_map]
  rfl

end Decoder

/-! ## Records -/

theorem find?_key_eq_some {α : Type} {members : List (String × α)}
    (distinct : (members.map Prod.fst).Nodup) {key : String} {content : α}
    (present : (key, content) ∈ members) :
    members.find? (fun member => member.1 == key) = some (key, content) := by
  induction members with
  | nil => cases present
  | cons member rest inductionHypothesis =>
      rw [List.map_cons, List.nodup_cons] at distinct
      rcases List.mem_cons.1 present with rfl | inRest
      · exact List.find?_cons_of_pos (beq_self_eq_true key)
      · rw [List.find?_cons_of_neg, inductionHypothesis distinct.2 inRest]
        rw [beq_iff_eq]
        exact fun same => distinct.1 (same ▸ List.mem_map_of_mem inRest)

namespace FieldTable

/-- The members whose keys are fields. -/
def fieldsAmong (table : FieldTable) (members : List (String × Document)) :
    List (String × Document) :=
  members.filter fun member => table.any fun field => field.1 == member.1

theorem distinct_fieldsAmong (table : FieldTable) {members : List (String × Document)}
    (distinct : (members.map Prod.fst).Nodup) :
    ((table.fieldsAmong members).map Prod.fst).Nodup :=
  distinct.sublist (List.filter_sublist.map Prod.fst)

/-- A record takes the members whose keys are its fields. -/
theorem pick?_ofMembers (table : FieldTable) {members : List (String × Document)}
    (distinct : (members.map Prod.fst).Nodup) :
    table.pick? (members.map fun member => (some member.1, member.2)) =
      some (table.fieldsAmong members) := by
  unfold fieldsAmong
  induction members with
  | nil => rfl
  | cons member rest inductionHypothesis =>
      rw [List.map_cons, List.nodup_cons] at distinct
      rw [List.map_cons, pick?, inductionHypothesis distinct.2]
      dsimp only
      split
      · rename_i isField
        rw [List.filter_cons_of_pos (by exact isField), if_neg]
        simp only [List.any_eq_true, List.mem_filter, beq_iff_eq, not_exists, not_and, and_imp]
        intro other inRest _ same
        exact distinct.1 (List.mem_map.2 ⟨other, inRest, same⟩)
      · rename_i noField
        rw [List.filter_cons_of_neg (by simpa using noField)]

/-- An object is read as a record if no field is missing that has to be there. -/
theorem read?_ofMembers (table : FieldTable) (allowance : Nat)
    {members : List (String × Document)} (distinct : (members.map Prod.fst).Nodup)
    (complete : ∀ field ∈ table, field.2 = .refused → field.1 ∈ members.map Prod.fst) :
    table.read? (allowance + 1) (.ofMembers members) =
      some ⟨table.fieldsAmong members, allowance⟩ := by
  have nothingMissing :
      table.complete (table.fieldsAmong members) (fun absence => absence != .refused) = true := by
    unfold FieldTable.complete
    rw [List.all_eq_true]
    intro field inTable
    by_cases mayMiss : field.2 = .refused
    · obtain ⟨member, inMembers, sameName⟩ := List.mem_map.1 (complete field inTable mayMiss)
      have isField : (table.any fun field => field.1 == member.1) = true :=
        List.any_eq_true.2 ⟨field, inTable, by simp [sameName]⟩
      have present : member ∈ table.fieldsAmong members := List.mem_filter.2 ⟨inMembers, isField⟩
      rw [Bool.or_eq_true]
      exact .inr (List.any_eq_true.2 ⟨member, present, by simp [sameName]⟩)
    · simp [mayMiss]
  rw [Document.ofMembers, FieldTable.read?, FieldTable.readObject?, pick?_ofMembers table distinct,
    Option.filter_some, if_pos nothingMissing]
  rfl

end FieldTable

namespace Record

theorem field?_eq_some (table : FieldTable) {members : List (String × Document)}
    (distinct : (members.map Prod.fst).Nodup) (allowance : Nat) {name : String}
    {document : Document} (isField : (table.any fun field => field.1 == name) = true)
    (present : (name, document) ∈ members) :
    Record.field? ⟨table.fieldsAmong members, allowance⟩ name = some document := by
  have inFields : (name, document) ∈ table.fieldsAmong members :=
    List.mem_filter.2 ⟨present, isField⟩
  unfold Record.field?
  rw [find?_key_eq_some (table.distinct_fieldsAmong distinct) inFields]
  rfl

theorem field?_eq_none (table : FieldTable) {members : List (String × Document)}
    (allowance : Nat) {name : String} (absent : name ∉ members.map Prod.fst) :
    Record.field? ⟨table.fieldsAmong members, allowance⟩ name = none := by
  unfold Record.field?
  rw [Option.map_eq_none_iff, List.find?_eq_none]
  intro member inFields sameName
  have inMembers : member ∈ members := (List.mem_filter.1 inFields).1
  exact absent (List.mem_map.2 ⟨member, inMembers, by simpa using sameName⟩)

/-- A field that may be absent is read if it is readable wherever it is there. -/
theorem exists_defaulted?_eq_some {α : Type} (table : FieldTable)
    {members : List (String × Document)} (distinct : (members.map Prod.fst).Nodup)
    (allowance : Nat) {name : String} (isField : (table.any fun field => field.1 == name) = true)
    (default : α) {decoder : Decoder α}
    (readable : ∀ part, (name, part) ∈ members → ∃ found, decoder allowance part = some found) :
    ∃ found, Record.defaulted? ⟨table.fieldsAmong members, allowance⟩ name default decoder =
      some found := by
  unfold Record.defaulted?
  by_cases present : name ∈ members.map Prod.fst
  · obtain ⟨⟨key, part⟩, inMembers, rfl⟩ := List.mem_map.1 present
    obtain ⟨found, isRead⟩ := readable part inMembers
    rw [field?_eq_some table distinct allowance isField inMembers]
    exact ⟨found, isRead⟩
  · rw [field?_eq_none table allowance present]
    exact ⟨default, rfl⟩

end Record

end FacetedSearch.Json
