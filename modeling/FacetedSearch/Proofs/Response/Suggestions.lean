import FacetedSearch.Response.Spelling
import Mathlib.Data.List.Induction
import Mathlib.Data.List.Nodup

/-!
Contract: suggestions for another spelling as groups of an answer's suggestions.

Owns:
- `nodup_eraseDups` and `eraseDups_concat`: first occurrences are different, and one more element
  adds itself or nothing;
- `SpellSuggestion.Joins`, a suggestion that holds what a group of suggestions holds, and
  `SpellSuggestion.Groups`, the groups of a list in order of their first members;
- `Groups.mergeInto` and `groups_foldl`: merging one more suggestion keeps the groups, so merging
  all of them makes the groups;
- `SpellCheck.ofRaw_groups`, which says this of the answer of an engine.

Does not own: where an engine's suggestions come from.
-/

namespace FacetedSearch

/-! ## First occurrences -/

section FirstOccurrences

variable {α : Type} [BEq α] [LawfulBEq α]

theorem nodup_eraseDups (list : List α) : list.eraseDups.Nodup := by
  match list with
  | [] => exact List.nodup_nil
  | head :: tail =>
      rw [List.eraseDups_cons, List.nodup_cons]
      have shorter := List.length_filter_le (fun element => !element == head) tail
      exact ⟨by simp, nodup_eraseDups (tail.filter fun element => !element == head)⟩
termination_by list.length

/-- One more element is a first occurrence unless it is there. -/
theorem eraseDups_concat (list : List α) (element : α) :
    (list ++ [element]).eraseDups =
      if element ∈ list then list.eraseDups else list.eraseDups ++ [element] := by
  rw [List.eraseDups_append]
  split
  · rename_i present
    simp [List.removeAll, present]
  · rename_i absent
    have kept : [element].removeAll list = [element] := by simp [List.removeAll, absent]
    rw [kept, List.eraseDups_cons]
    rfl

end FirstOccurrences

namespace SpellSuggestion

/-! ## Groups -/

/-- The suggestions for some typed words. -/
def groupOf (suggestions : List SpellSuggestion) (typed : String) : List SpellSuggestion :=
  suggestions.filter fun suggestion => suggestion.typed == typed

/-- Whether a suggestion has the greatest number of hits of a group, and the alternatives of the
group in order of their first occurrence, each once. -/
structure Joins (group : List SpellSuggestion) (joined : SpellSuggestion) : Prop where
  attained : ∃ member ∈ group, member.hits = joined.hits
  greatest : ∀ member ∈ group, member.hits ≤ joined.hits
  alternatives : joined.alternatives = (group.flatMap SpellSuggestion.alternatives).eraseDups

/-- Whether some suggestions are the groups of others, in order of the first members. -/
structure Groups (suggestions groups : List SpellSuggestion) : Prop where
  typed : groups.map SpellSuggestion.typed =
    (suggestions.map SpellSuggestion.typed).eraseDups
  joins : ∀ joined ∈ groups, Joins (groupOf suggestions joined.typed) joined

theorem groupOf_concat_self (suggestions : List SpellSuggestion) (next : SpellSuggestion) :
    groupOf (suggestions ++ [next]) next.typed = groupOf suggestions next.typed ++ [next] := by
  simp [groupOf]

theorem groupOf_concat_of_ne {next : SpellSuggestion} {typed : String}
    (different : typed ≠ next.typed) (suggestions : List SpellSuggestion) :
    groupOf (suggestions ++ [next]) typed = groupOf suggestions typed := by
  simp [groupOf, different.symm]

/-! ## Merging one suggestion -/

/-- Alternatives that are added one by one are those at their first occurrence. -/
theorem addAlternatives_eraseDups (present added : List String) :
    addAlternatives present.eraseDups added = (present ++ added).eraseDups := by
  induction added generalizing present with
  | nil => rw [List.append_nil]; rfl
  | cons alternative rest inductionHypothesis =>
      have step : addAlternatives present.eraseDups (alternative :: rest) =
          addAlternatives (present ++ [alternative]).eraseDups rest := by
        rw [eraseDups_concat, addAlternatives, addAlternatives, List.foldl_cons]
        simp only [List.contains_iff_mem, List.mem_eraseDups]
      rw [step, inductionHypothesis, List.append_assoc, List.singleton_append]

/-- The greater of two numbers is one of them and not less than either. -/
theorem max_spec (first second : UInt64) :
    first ≤ max first second ∧ second ≤ max first second ∧
      (max first second = first ∨ max first second = second) := by
  change first ≤ (if first ≤ second then second else first) ∧
    second ≤ (if first ≤ second then second else first) ∧
      ((if first ≤ second then second else first) = first ∨
        (if first ≤ second then second else first) = second)
  split
  · rename_i notGreater
    exact ⟨notGreater, UInt64.le_refl _, .inr rfl⟩
  · rename_i greater
    exact ⟨UInt64.le_refl _, UInt64.le_of_lt (UInt64.not_le.1 greater), .inl rfl⟩

/-- A suggestion that joins a group absorbs one more member of it. -/
theorem Joins.absorb {group : List SpellSuggestion} {joined : SpellSuggestion}
    (joins : Joins group joined) (next : SpellSuggestion) :
    Joins (group ++ [next]) (joined.absorb next) where
  attained := by
    rcases (max_spec joined.hits next.hits).2.2 with isFirst | isSecond
    · obtain ⟨member, inGroup, same⟩ := joins.attained
      exact ⟨member, List.mem_append_left _ inGroup, same.trans isFirst.symm⟩
    · exact ⟨next, List.mem_concat_self, isSecond.symm⟩
  greatest := by
    intro member inGroup
    obtain ⟨first, second, -⟩ := max_spec joined.hits next.hits
    rcases List.mem_append.1 inGroup with earlier | last
    · exact UInt64.le_trans (joins.greatest member earlier) first
    · rw [List.mem_singleton.1 last]
      exact second
  alternatives := by
    rw [List.flatMap_append, List.flatMap_singleton, ← addAlternatives_eraseDups,
      ← joins.alternatives]
    rfl

/-- The first suggestion for some words joins itself. -/
theorem joins_singleton (next : SpellSuggestion) :
    Joins [next] (SpellSuggestion.absorb ⟨next.typed, 0, []⟩ next) where
  attained := by
    have isNext : max 0 next.hits = next.hits := by
      rcases (max_spec 0 next.hits).2.2 with isZero | isNext
      · have notGreater := (max_spec 0 next.hits).2.1
        rw [isZero] at notGreater ⊢
        exact (UInt64.le_antisymm notGreater UInt64.zero_le).symm
      · exact isNext
    exact ⟨next, List.mem_singleton.2 rfl, isNext.symm⟩
  greatest := by
    intro member inGroup
    rw [List.mem_singleton.1 inGroup]
    exact (max_spec 0 next.hits).2.1
  alternatives := by
    rw [List.flatMap_singleton]
    exact addAlternatives_eraseDups [] next.alternatives

theorem typed_mergeInto (next : SpellSuggestion) (groups : List SpellSuggestion) :
    (next.mergeInto groups).map typed =
      if next.typed ∈ groups.map typed then groups.map typed
      else groups.map typed ++ [next.typed] := by
  induction groups with
  | nil => simp [mergeInto, absorb]
  | cons group rest inductionHypothesis =>
      rw [mergeInto]
      by_cases same : group.typed = next.typed
      · simp [same, absorb]
      · rw [if_neg same, List.map_cons, inductionHypothesis]
        simp only [List.map_cons, List.mem_cons, Ne.symm same, false_or]
        split <;> rfl

/-- Merging leaves groups for other words as they are, and the one for the same words absorbs what
is merged, if there is one. -/
theorem of_mem_mergeInto {next joined : SpellSuggestion} {groups : List SpellSuggestion}
    (distinct : (groups.map typed).Nodup) (member : joined ∈ next.mergeInto groups) :
    joined ∈ groups ∧ joined.typed ≠ next.typed ∨
      (∃ group ∈ groups, group.typed = next.typed ∧ joined = group.absorb next) ∨
        next.typed ∉ groups.map typed ∧
          joined = SpellSuggestion.absorb ⟨next.typed, 0, []⟩ next := by
  induction groups with
  | nil => exact .inr (.inr ⟨List.not_mem_nil, List.mem_singleton.1 member⟩)
  | cons group rest inductionHypothesis =>
      obtain ⟨fresh, distinctRest⟩ := List.nodup_cons.1 distinct
      rw [mergeInto] at member
      split at member
      · rename_i same
        rcases List.mem_cons.1 member with rfl | inRest
        · exact .inr (.inl ⟨group, List.mem_cons_self, same, rfl⟩)
        · refine .inl ⟨List.mem_cons_of_mem _ inRest, fun isSame => fresh ?_⟩
          rw [same, ← isSame]
          exact List.mem_map_of_mem inRest
      · rename_i different
        rcases List.mem_cons.1 member with rfl | inRest
        · exact .inl ⟨List.mem_cons_self, different⟩
        · rcases inductionHypothesis distinctRest inRest with
            ⟨isOther, otherWords⟩ | ⟨present, isGroup, same, absorbed⟩ | ⟨absent, isFirst⟩
          · exact .inl ⟨List.mem_cons_of_mem _ isOther, otherWords⟩
          · exact .inr (.inl ⟨present, List.mem_cons_of_mem _ isGroup, same, absorbed⟩)
          · refine .inr (.inr ⟨?_, isFirst⟩)
            rw [List.map_cons, List.mem_cons, not_or]
            exact ⟨Ne.symm different, absent⟩

/-! ## Merging all suggestions -/

/-- Merging one more suggestion keeps the groups. -/
theorem Groups.mergeInto {suggestions groups : List SpellSuggestion}
    (isGrouped : Groups suggestions groups) (next : SpellSuggestion) :
    Groups (suggestions ++ [next]) (next.mergeInto groups) where
  typed := by
    rw [typed_mergeInto, isGrouped.typed, List.map_append, List.map_singleton, eraseDups_concat]
    simp only [List.mem_eraseDups]
  joins := by
    intro joined member
    have distinct : (groups.map SpellSuggestion.typed).Nodup :=
      isGrouped.typed ▸ nodup_eraseDups _
    rcases of_mem_mergeInto distinct member with
      ⟨isOther, otherWords⟩ | ⟨group, isGroup, same, rfl⟩ | ⟨absent, rfl⟩
    · rw [groupOf_concat_of_ne otherWords]
      exact isGrouped.joins joined isOther
    · have joins := isGrouped.joins group isGroup
      have sameWords : (group.absorb next).typed = next.typed := same
      rw [sameWords, groupOf_concat_self, ← same]
      exact joins.absorb next
    · rw [isGrouped.typed, List.mem_eraseDups] at absent
      have noneBefore : groupOf suggestions next.typed = [] := by
        refine List.filter_eq_nil_iff.2 fun suggestion earlier sameWords => absent ?_
        rw [← beq_iff_eq.1 sameWords]
        exact List.mem_map_of_mem earlier
      have words : (SpellSuggestion.absorb ⟨next.typed, 0, []⟩ next).typed = next.typed := rfl
      rw [words, groupOf_concat_self, noneBefore]
      exact joins_singleton next

/-- Merging all suggestions makes their groups. -/
theorem groups_foldl (suggestions : List SpellSuggestion) :
    Groups suggestions (suggestions.foldl (fun merged next => next.mergeInto merged) []) := by
  induction suggestions using List.reverseRecOn with
  | nil => exact ⟨rfl, fun _ member => absurd member List.not_mem_nil⟩
  | append_singleton suggestions next inductionHypothesis =>
      rw [List.foldl_concat]
      exact inductionHypothesis.mergeInto next

end SpellSuggestion

namespace SpellCheck

/-- **Suggestions are groups, and nothing is lost.** The suggestions that are merged are the
corrected queries, each as the one alternative to the words that it corrects, if there are any, and
else those for single words. The result has one suggestion for each of the typed words, in order of
their first occurrence, with the greatest number of hits and all alternatives of its group. Beside
corrected queries the suggestions for single words do not matter. -/
theorem ofRaw_groups (spelling : RawSpelling) :
    (spelling.unmerged =
      if spelling.collations = [] then
        spelling.suggestions.map fun word => ⟨word.word, word.hits, word.alternatives⟩
      else
        spelling.collations.map fun collation =>
          ⟨" ".intercalate (collation.corrections.map Prod.fst), collation.hits,
            [collation.query]⟩) ∧
    ((ofRaw spelling).suggestions.map SpellSuggestion.typed).Nodup ∧
    (ofRaw spelling).suggestions.map SpellSuggestion.typed =
      (spelling.unmerged.map SpellSuggestion.typed).eraseDups ∧
    (∀ joined ∈ (ofRaw spelling).suggestions,
      SpellSuggestion.Joins (SpellSuggestion.groupOf spelling.unmerged joined.typed) joined) ∧
    (ofRaw spelling).correctlySpelled = spelling.correctlySpelled ∧
    ∀ others, spelling.collations ≠ [] →
      ofRaw { spelling with suggestions := others } = ofRaw spelling := by
  have isGrouped := SpellSuggestion.groups_foldl spelling.unmerged
  refine ⟨?_, ?_, isGrouped.typed, isGrouped.joins, rfl, ?_⟩
  · simp only [RawSpelling.unmerged, List.isEmpty_iff]
    rfl
  · exact isGrouped.typed ▸ nodup_eraseDups _
  · intro others corrected
    simp only [ofRaw, RawSpelling.unmerged, List.isEmpty_iff, if_neg corrected]

end SpellCheck

namespace Observations

/-- Corrections of a misspelled puma, two of them the same, beside suggestions for single words. -/
def misspelled : RawSpelling where
  collations :=
    [⟨"puma concolor", 12, [("pumaa", "puma"), ("concolr", "concolor")]⟩,
     ⟨"puma", 40, [("pumaa", "puma")]⟩,
     ⟨"pima concolor", 30, [("pumaa", "pima"), ("concolr", "concolor")]⟩,
     ⟨"puma concolor", 5, [("pumaa", "puma"), ("concolr", "concolor")]⟩]
  suggestions := [⟨"pumaa", 3, ["puma"]⟩]

theorem ofRaw_groups_misspelled :
    misspelled.collations ≠ [] ∧
      (SpellCheck.ofRaw misspelled).suggestions.map SpellSuggestion.typed =
        ["pumaa concolr", "pumaa"] ∧
      SpellCheck.ofRaw { misspelled with suggestions := [] } = SpellCheck.ofRaw misspelled := by
  obtain ⟨-, -, words, -, -, unaffected⟩ := SpellCheck.ofRaw_groups misspelled
  have corrected : misspelled.collations ≠ [] := List.cons_ne_nil _ _
  refine ⟨corrected, words.trans ?_, unaffected [] corrected⟩
  decide +kernel

end Observations

end FacetedSearch
