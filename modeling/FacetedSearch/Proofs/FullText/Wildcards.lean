import FacetedSearch.Proofs.FullText.Symbols
import FacetedSearch.Proofs.FullText.Terms
import FacetedSearch.Proofs.Sorting
import Mathlib.Algebra.GroupWithZero.Nat

/-!
Contract: the wildcards of queries over a table of fields are its own.

Owns:
- `Pads`, a text that is another one with some bare wildcards added and no bare question mark,
  kept by `Pads.append` and `Pads.alternatives`;
- `pads_term`: a term adds none;
- `pads_written`: a query adds those of its components;
- `termComponents_perm`: the components are a search for whole words for each row, and a padded one
  for each row with padding;
- `wildcards_are_paddings`: all this for a table in any order of its rows.

Does not own: what a wildcard matches.
-/

namespace FacetedSearch.FullText

open Text

/-! ## Padded texts -/

/-- A character that is neither a wildcard nor a backslash. -/
def IsUnpadded (c : Char) : Prop :=
  c ≠ '*' ∧ c ≠ '?' ∧ c ≠ '\\'

instance : DecidablePred IsUnpadded := fun c =>
  inferInstanceAs (Decidable (c ≠ '*' ∧ c ≠ '?' ∧ c ≠ '\\'))

/-- The characters of a class without wildcards and the backslash are unpadded. -/
theorem isUnpadded_of (holds : Char → Prop) {c : Char} (member : holds c) (wild : ¬ holds '*')
    (single : ¬ holds '?') (backslash : ¬ holds '\\') : IsUnpadded c :=
  ⟨fun same => wild (same ▸ member), fun same => single (same ▸ member),
    fun same => backslash (same ▸ member)⟩

/-- Whether a text is another one with a number of wildcards added that no backslash stands before,
and has no question mark without one. -/
structure Pads (count : Nat) (text padded : List Char) : Prop where
  textComplete : IsComplete text
  complete : IsComplete padded
  others : (symbols padded).filter (· ≠ .bare '*') = symbols text
  count : (symbols padded).count (.bare '*') = count
  noSingle : .bare '?' ∉ symbols padded

namespace Pads

theorem append {leftCount rightCount : Nat} {left right leftPadded rightPadded : List Char}
    (ofLeft : Pads leftCount left leftPadded) (ofRight : Pads rightCount right rightPadded) :
    Pads (leftCount + rightCount) (left ++ right) (leftPadded ++ rightPadded) where
  textComplete := ofLeft.textComplete.append ofRight.textComplete
  complete := ofLeft.complete.append ofRight.complete
  others := by
    rw [symbols_append ofLeft.complete, symbols_append ofLeft.textComplete, List.filter_append,
      ofLeft.others, ofRight.others]
  count := by
    rw [symbols_append ofLeft.complete, List.count_append, ofLeft.count, ofRight.count]
  noSingle := by
    rw [symbols_append ofLeft.complete, List.mem_append, not_or]
    exact ⟨ofLeft.noSingle, ofRight.noSingle⟩

/-- A text in which whatever is a wildcard is escaped adds none. -/
theorem of_escaped {text : List Char} (escaped : Solr.Escaped IsUnpadded text) :
    Pads 0 text text := by
  have complete : IsComplete text := escaped.imp fun c isUnpadded => isUnpadded.2.2
  have unpadded {c : Char} (bare : .bare c ∈ symbols text) : IsUnpadded c :=
    plain_of_bare_mem (by decide) escaped bare
  refine ⟨complete, complete, ?_, ?_, fun single => (unpadded single).2.1 rfl⟩
  · refine List.filter_eq_self.2 fun symbol member => ?_
    rw [decide_eq_true_eq]
    rintro rfl
    exact (unpadded member).1 rfl
  · exact List.count_eq_zero.2 fun member => (unpadded member).1 rfl

theorem of_each {text : List Char} (each : ∀ c ∈ text, IsUnpadded c) : Pads 0 text text :=
  of_escaped (Solr.escaped_of_each each)

theorem wildcard : Pads 1 [] FullText.wildcard where
  textComplete := .nil
  complete := .plain (by decide) .nil
  others := rfl
  count := rfl
  noSingle := by decide

end Pads

/-! ## Components -/

/-- How many wildcards a padding adds. -/
def Padding.width : Padding → Nat
  | .both => 2
  | .left => 1
  | .right => 1
  | .none => 0

/-- The same search without padding. -/
def Component.unpadded (component : Component) : Component :=
  { component with padding := .none }

theorem Padding.pads {term : List Char} (ofTerm : Pads 0 term term) (padding : Padding) :
    Pads padding.width term (padding.pad term) := by
  cases padding with
  | both => simpa [width, pad] using (Pads.wildcard.append ofTerm).append Pads.wildcard
  | left => exact Pads.wildcard.append ofTerm
  | right => simpa [width, pad] using ofTerm.append Pads.wildcard
  | none => exact ofTerm

theorem isUnpadded_of_isValueCharacter {c : Char} (isValue : IsValueCharacter c) :
    IsUnpadded c :=
  isUnpadded_of IsValueCharacter isValue (by decide) (by decide) (by decide)

theorem Component.pads {term : List Char} (ofTerm : Pads 0 term term) {component : Component}
    (named : ∀ c ∈ component.field.toList, IsUnpadded c) :
    Pads component.padding.width (component.unpadded.chars term) (component.chars term) := by
  have ofBoost : Pads 0 (Floating.markedLayout.renderChars component.boost)
      (Floating.markedLayout.renderChars component.boost) :=
    .of_each fun c member => isUnpadded_of_isValueCharacter
      (Floating.renderChars_isValueCharacter rfl component.boost c member)
  have ofMark (c : Char) (isUnpadded : IsUnpadded c) : Pads 0 [c] [c] :=
    .of_each (List.forall_mem_singleton.2 isUnpadded)
  have whole := (((Pads.of_each named).append (ofMark ':' (by decide))).append
    (component.padding.pads ofTerm)).append ((ofMark '^' (by decide)).append ofBoost)
  simpa [chars, unpadded, Padding.pad] using whole

/-- The query of some components for a term: the term itself if there are none. -/
def written (components : List Component) (term : List Char) : List Char :=
  if components.isEmpty then term
  else '(' :: alternatives (components.map fun component => component.chars term) ++ [')']

theorem Pads.alternatives {term : List Char} (ofTerm : Pads 0 term term)
    {components : List Component}
    (named : ∀ component ∈ components, ∀ c ∈ component.field.toList, IsUnpadded c) :
    Pads (components.map fun component => component.padding.width).sum
      (FullText.alternatives (components.map fun component => component.unpadded.chars term))
      (FullText.alternatives (components.map fun component => component.chars term)) := by
  induction components with
  | nil => exact .of_each (List.forall_mem_nil _)
  | cons component rest inductionHypothesis =>
      obtain ⟨firstNamed, restNamed⟩ := List.forall_mem_cons.1 named
      have ofFirst := Component.pads ofTerm firstNamed
      cases rest with
      | nil => simpa [FullText.alternatives] using ofFirst
      | cons next others =>
          have ofJoin : Pads 0 joiningWord joiningWord := .of_each (forall_mem_of_all (by decide))
          simp only [List.map_cons] at inductionHypothesis ⊢
          rw [alternatives_cons_cons, alternatives_cons_cons, List.sum_cons,
            ← Nat.zero_add (List.sum _)]
          exact ofFirst.append (ofJoin.append (inductionHypothesis restNamed))

/-- A query adds the wildcards of its components to the query without paddings. -/
theorem pads_written {term : List Char} (ofTerm : Pads 0 term term) {components : List Component}
    (named : ∀ component ∈ components, ∀ c ∈ component.field.toList, IsUnpadded c) :
    Pads (components.map fun component => component.padding.width).sum
      (written (components.map Component.unpadded) term) (written components term) := by
  cases components with
  | nil => exact ofTerm
  | cons component rest =>
      have ofMark (c : Char) (isUnpadded : IsUnpadded c) : Pads 0 [c] [c] :=
        .of_each (List.forall_mem_singleton.2 isUnpadded)
      have whole := ((ofMark '(' (by decide)).append (Pads.alternatives ofTerm named)).append
        (ofMark ')' (by decide))
      simpa [written, Function.comp_def] using whole

/-! ## Terms -/

theorem isUnpadded_of_isLiteral {c : Char} (isLiteral : IsLiteral c) : IsUnpadded c :=
  isUnpadded_of (· ∉ specialCharacters) isLiteral (by decide) (by decide) (by decide)

/-- A term adds no wildcards, unless it is the wildcard. -/
theorem pads_term {text : List Char} (notBlank : trimBlanks text ≠ [])
    (notWildcard : trimBlanks text ≠ wildcard) : Pads 0 (term text) (term text) := by
  have escaped := (escaped_escape (collapseBlanks (trimBlanks text))).imp
    fun _ => isUnpadded_of_isLiteral
  have quote : Solr.Escaped IsUnpadded ['\x22'] :=
    Solr.escaped_of_each (List.forall_mem_singleton.2 (by decide))
  rw [term_eq notBlank notWildcard]
  split
  · exact .of_escaped ((quote.append escaped).append quote)
  · exact .of_escaped escaped

/-! ## Tables -/

/-- The padded search of a row. -/
def FullTextField.partialComponent (row : FullTextField) : Component :=
  ⟨row.field, row.padding, row.partialBoost⟩

/-- A term without spaces is searched by the exact search of each row and the padded search of each
row with padding. -/
theorem termComponents_perm (rows : List FullTextField) :
    (rows.flatMap FullTextField.termComponents).Perm
      (rows.map FullTextField.exactComponent ++
        (rows.filter (·.padding ≠ .none)).map FullTextField.partialComponent) := by
  induction rows with
  | nil => exact .refl _
  | cons row rest inductionHypothesis =>
      rw [List.flatMap_cons, List.map_cons, List.cons_append, FullTextField.termComponents]
      by_cases unpadded : row.padding = .none
      · rw [if_pos unpadded, List.filter_cons_of_neg (by simpa using unpadded)]
        exact inductionHypothesis.cons _
      · rw [if_neg unpadded, List.filter_cons_of_pos (by simpa using unpadded), List.map_cons]
        refine .cons _ ?_
        exact (inductionHypothesis.cons row.partialComponent).trans List.perm_middle.symm

/-- The components of a phrase have no padding. -/
theorem padding_of_mem_components {table : QueryTable} {term : List Char} (hasSpace : ' ' ∈ term)
    {component : Component} (member : component ∈ table.components term) :
    component.padding = .none := by
  rw [QueryTable.components, if_pos (List.contains_iff_mem.2 hasSpace)] at member
  obtain ⟨row, -, member⟩ := List.mem_flatMap.1 member
  rw [FullTextField.phraseComponents] at member
  split at member
  · simp only [List.mem_cons, List.not_mem_nil, or_false] at member
    rcases member with rfl | rfl
    · rfl
    · rfl
  · rw [List.mem_singleton.1 member]
    rfl

/-- Every component searches the field of a row, or the field for its whole words. -/
theorem field_of_mem_components {table : QueryTable} {term : List Char} {component : Component}
    (member : component ∈ table.components term) :
    ∃ row ∈ table.rows, component.field = row.field ∨ component.field = row.exactField := by
  rw [QueryTable.components] at member
  split at member
  · obtain ⟨row, inTable, ofRow⟩ := List.mem_flatMap.1 member
    refine ⟨row, inTable, ?_⟩
    rw [FullTextField.phraseComponents] at ofRow
    split at ofRow
    · simp only [List.mem_cons, List.not_mem_nil, or_false] at ofRow
      rcases ofRow with rfl | rfl
      · exact .inr rfl
      · exact .inl rfl
    · rw [List.mem_singleton.1 ofRow]
      exact .inr rfl
  · obtain ⟨row, inTable, ofRow⟩ := List.mem_flatMap.1 member
    refine ⟨row, inTable, ?_⟩
    rw [FullTextField.termComponents] at ofRow
    split at ofRow
    · rw [List.mem_singleton.1 ofRow]
      exact .inr rfl
    · simp only [List.mem_cons, List.not_mem_nil, or_false] at ofRow
      rcases ofRow with rfl | rfl
      · exact .inr rfl
      · exact .inl rfl

theorem query_eq_written (table : QueryTable) {text : String}
    (notBlank : trimBlanks text.toList ≠ []) (notWildcard : trimBlanks text.toList ≠ wildcard) :
    (table.query text).toList =
      written (table.components (term text.toList)) (term text.toList) := by
  have searched : term text.toList ≠ wildcard :=
    mt (term_eq_wildcard_iff _).1 (not_or.2 ⟨notBlank, notWildcard⟩)
  rw [QueryTable.query, String.toList_ofList, QueryTable.queryOfTerm, if_neg searched]
  rfl

/-- The query of a table adds the wildcards of its components, and no others. -/
theorem pads_query {table : QueryTable}
    (named : ∀ row ∈ table.rows, (∀ c ∈ row.field.toList, IsUnpadded c) ∧
      ∀ c ∈ row.exactField.toList, IsUnpadded c)
    {text : String} (notBlank : trimBlanks text.toList ≠ [])
    (notWildcard : trimBlanks text.toList ≠ wildcard) :
    Pads ((table.components (term text.toList)).map fun component => component.padding.width).sum
      (written ((table.components (term text.toList)).map Component.unpadded) (term text.toList))
      (table.query text).toList := by
  rw [query_eq_written table notBlank notWildcard]
  refine pads_written (pads_term notBlank notWildcard) fun component member => ?_
  obtain ⟨row, inTable, isField | isField⟩ := field_of_mem_components member
  · exact isField ▸ (named row inTable).1
  · exact isField ▸ (named row inTable).2

/-- The order in which rows are given makes no difference. -/
theorem ofRows_eq_of_perm {rows others : List FullTextField}
    (distinct : (rows.map FullTextField.field).Nodup) (same : others.Perm rows) :
    QueryTable.ofRows others = QueryTable.ofRows rows :=
  congrArg QueryTable.mk (sortBy_eq_sortBy same fun _ inRows _ inRows' sameField =>
    List.inj_on_of_nodup_map distinct inRows inRows' sameField)

/-- **The wildcards of a query are its own.** Rows with different fields give the same query in
every order. Whatever the text is, unless it is blank or the wildcard, the query is written from
components with exactly the wildcards of their paddings, and no question mark, in front of which no
backslash stands. The components of a phrase have no padding. Those of a term without spaces are
the exact search of each row and the padded search of each row with padding. -/
theorem wildcards_are_paddings {rows : List FullTextField}
    (distinct : (rows.map FullTextField.field).Nodup)
    (named : ∀ row ∈ rows, (∀ c ∈ row.field.toList, IsUnpadded c) ∧
      ∀ c ∈ row.exactField.toList, IsUnpadded c)
    {text : String} (notBlank : trimBlanks text.toList ≠ [])
    (notWildcard : trimBlanks text.toList ≠ wildcard) :
    (∀ others : List FullTextField, others.Perm rows →
      (QueryTable.ofRows others).query text = (QueryTable.ofRows rows).query text) ∧
    ∃ components : List Component,
      ((QueryTable.ofRows rows).query text).toList = written components (term text.toList) ∧
      Pads (components.map fun component => component.padding.width).sum
        (written (components.map Component.unpadded) (term text.toList))
        ((QueryTable.ofRows rows).query text).toList ∧
      (' ' ∈ term text.toList →
        .bare '*' ∉ symbols ((QueryTable.ofRows rows).query text).toList) ∧
      (' ' ∉ term text.toList →
        components.Perm (rows.map FullTextField.exactComponent ++
          (rows.filter (·.padding ≠ .none)).map FullTextField.partialComponent)) := by
  refine ⟨fun others same => by rw [ofRows_eq_of_perm distinct same],
    (QueryTable.ofRows rows).components (term text.toList),
    query_eq_written _ notBlank notWildcard, ?_⟩
  have sorted : (QueryTable.ofRows rows).rows.Perm rows := sortBy_perm _ rows
  have pads := pads_query (fun row inTable => named row (sorted.mem_iff.1 inTable)) notBlank
    notWildcard
  refine ⟨pads, fun hasSpace => ?_, fun noSpace => ?_⟩
  · rw [← List.count_eq_zero, pads.count]
    refine List.sum_eq_zero_iff_forall_eq_nat.2 fun width member => ?_
    obtain ⟨component, isComponent, rfl⟩ := List.mem_map.1 member
    rw [padding_of_mem_components hasSpace isComponent, Padding.width]
  · rw [QueryTable.components, if_neg (mt List.contains_iff_mem.1 noSpace)]
    exact (sorted.flatMap_right _).trans (termComponents_perm rows)

end FacetedSearch.FullText

/-! ## Observations of species -/

namespace FacetedSearch.Observations

open FullText Text

/-- A table with whole words in another field, padding on both sides and on one. -/
def nameTable : List FullTextField :=
  [{ field := "scientific_name_ft", exactMatchField := some "canonical_name",
     exactBoost := .infinite false, padding := .both, partialBoost := .infinite false },
   { field := "family", exactBoost := .infinite false, partialBoost := .infinite false },
   { field := "author", exactBoost := .notANumber, padding := .right,
     partialBoost := .infinite true }]

theorem wildcards_are_paddings_nameTable :
    (nameTable.map FullTextField.field).Nodup ∧
      (∀ row ∈ nameTable, (∀ c ∈ row.field.toList, IsUnpadded c) ∧
        ∀ c ∈ row.exactField.toList, IsUnpadded c) ∧
      trimBlanks "p*ma?\\".toList ≠ [] ∧ trimBlanks "p*ma?\\".toList ≠ wildcard ∧
      (QueryTable.ofRows nameTable.reverse).query "p*ma?\\" =
        (QueryTable.ofRows nameTable).query "p*ma?\\" ∧
      ∃ components : List Component,
        ((QueryTable.ofRows nameTable).query "p*ma?\\").toList =
          written components "p\\*ma\\?\\\\".toList ∧
        components.length = 5 := by
  have distinct : (nameTable.map FullTextField.field).Nodup := by decide
  have allUnpadded : ∀ row ∈ nameTable,
      (row.field.toList.all fun c => decide (IsUnpadded c)) = true ∧
        (row.exactField.toList.all fun c => decide (IsUnpadded c)) = true := by decide
  have named : ∀ row ∈ nameTable, (∀ c ∈ row.field.toList, IsUnpadded c) ∧
      ∀ c ∈ row.exactField.toList, IsUnpadded c := fun row inTable =>
    ⟨forall_mem_of_all (allUnpadded row inTable).1, forall_mem_of_all (allUnpadded row inTable).2⟩
  have notBlank : trimBlanks "p*ma?\\".toList ≠ [] := by decide
  have notWildcard : trimBlanks "p*ma?\\".toList ≠ wildcard := by decide
  have isTerm : term "p*ma?\\".toList = "p\\*ma\\?\\\\".toList := by decide +kernel
  obtain ⟨sameQuery, components, isWritten, -, -, ofTerm⟩ :=
    wildcards_are_paddings distinct named notBlank notWildcard
  rw [isTerm] at isWritten ofTerm
  refine ⟨distinct, named, notBlank, notWildcard, sameQuery _ (List.reverse_perm nameTable),
    components, isWritten, ?_⟩
  rw [(ofTerm (by decide)).length_eq]
  decide

end FacetedSearch.Observations
