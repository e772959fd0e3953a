import FacetedSearch.Proofs.FullText.Clauses
import FacetedSearch.Proofs.FullText.Terms

/-!
Contract: texts without blanks but spaces.

Owns:
- `HasOnlySpaces`, with how it goes through words, groups and phrases;
- `hasOnlySpaces_clause`: a clause has no blanks but those of what it says;
- `loneBlanksAreSpaces_of_collapseBlanks`: if collapsing leaves no blanks but spaces, no other
  blank stood alone.

Does not own: queries.
-/

namespace FacetedSearch.FullText

open Text Solr

/-! ## Texts -/

/-- Whether each blank of a text is a space. -/
def HasOnlySpaces (text : List Char) : Prop :=
  ∀ c ∈ text, isBlank c = true → c = ' '

section

variable {text left right : List Char}

theorem hasOnlySpaces_append :
    HasOnlySpaces (left ++ right) ↔ HasOnlySpaces left ∧ HasOnlySpaces right :=
  List.forall_mem_append

theorem hasOnlySpaces_cons {c : Char} :
    HasOnlySpaces (c :: text) ↔ (isBlank c = true → c = ' ') ∧ HasOnlySpaces text :=
  List.forall_mem_cons

theorem hasOnlySpaces_nil : HasOnlySpaces [] :=
  List.forall_mem_nil _

theorem hasOnlySpaces_cons_of_visible {c : Char} (visible : isBlank c = false) :
    HasOnlySpaces (c :: text) ↔ HasOnlySpaces text := by
  rw [hasOnlySpaces_cons, visible]
  exact and_iff_right fun blank => nomatch blank

theorem hasOnlySpaces_of_visible (visible : ∀ c ∈ text, isBlank c = false) :
    HasOnlySpaces text := by
  intro c member blank
  rw [visible c member] at blank
  cases blank

theorem hasOnlySpaces_spaced {list : List (List Char)} (each : ∀ word ∈ list, IsWord word) :
    HasOnlySpaces ([' '].intercalate list) := by
  intro c member blank
  rcases mem_spaced member with isSpace | ⟨word, inList, inWord⟩
  · exact isSpace
  · exact hasOnlySpaces_of_visible (each word inList).visible c inWord blank

/-- Backslashes are not blank. -/
theorem hasOnlySpaces_of_unescaped (spaces : HasOnlySpaces (unescaped text)) :
    HasOnlySpaces text := by
  induction text using unescaped.induct with
  | case1 c rest inductionHypothesis =>
      rw [unescaped, hasOnlySpaces_cons] at spaces
      rw [hasOnlySpaces_cons, hasOnlySpaces_cons]
      exact ⟨by decide, spaces.1, inductionHypothesis spaces.2⟩
  | case2 c rest notEscaping inductionHypothesis =>
      rw [unescaped, hasOnlySpaces_cons] at spaces
      · exact hasOnlySpaces_cons.2 ⟨spaces.1, inductionHypothesis spaces.2⟩
      · exact notEscaping
  | case3 => exact List.forall_mem_nil _

end

/-! ## Clauses -/

theorem hasOnlySpaces_joiningWord : HasOnlySpaces joiningWord :=
  forall_mem_of_all (by decide)

theorem hasOnlySpaces_alternatives_iff (texts : List (List Char)) :
    HasOnlySpaces (alternatives texts) ↔ ∀ text ∈ texts, HasOnlySpaces text := by
  induction texts with
  | nil => simp [alternatives, HasOnlySpaces]
  | cons first rest inductionHypothesis =>
      cases rest with
      | nil => exact List.forall_mem_singleton.symm
      | cons next others =>
          rw [List.forall_mem_cons, alternatives_cons_cons, hasOnlySpaces_append,
            hasOnlySpaces_append]
          exact and_congr_right fun _ =>
            (and_iff_right hasOnlySpaces_joiningWord).trans inductionHypothesis

theorem hasOnlySpaces_grouped_iff (lefts rights : List (List Char)) :
    HasOnlySpaces (grouped lefts rights) ↔
      (∀ text ∈ lefts, HasOnlySpaces text) ∧ ∀ text ∈ rights, HasOnlySpaces text := by
  simp (disch := decide) only [grouped, hasOnlySpaces_cons_of_visible, hasOnlySpaces_append,
    hasOnlySpaces_alternatives_iff, hasOnlySpaces_joiningWord, hasOnlySpaces_nil, true_and,
    and_true]

theorem hasOnlySpaces_phrase_iff (text : List Char) :
    HasOnlySpaces (phrase text) ↔ HasOnlySpaces text := by
  simp (disch := decide) only [phrase, hasOnlySpaces_cons_of_visible, hasOnlySpaces_append,
    hasOnlySpaces_nil, and_true]

/-- A clause has no blanks but those of what it says. -/
theorem hasOnlySpaces_clause {clause : Clause}
    (spaces : HasOnlySpaces clause.search.sought.chars) : HasOnlySpaces clause.chars := by
  have ofField : HasOnlySpaces clause.field.chars :=
    hasOnlySpaces_of_visible fun c member => (clause.field.each c member).2
  have ofBoost : HasOnlySpaces (Nat.toDigits 10 clause.boost) :=
    hasOnlySpaces_of_visible fun c member =>
      isBlank_of_isDigit ((areDigits_toDigits clause.boost).each c member)
  have ofAtom : HasOnlySpaces clause.atom.chars := by
    revert spaces
    rw [Clause.search]
    cases clause.atom with
    | anything => exact id
    | bare token isTerm => exact hasOnlySpaces_of_unescaped
    | quoted text =>
        intro spaces
        exact (hasOnlySpaces_phrase_iff _).2
          (hasOnlySpaces_of_unescaped ((hasOnlySpaces_phrase_iff _).1 spaces))
  simp (disch := decide) only [Clause.chars, hasOnlySpaces_append, hasOnlySpaces_cons_of_visible]
  exact ⟨⟨ofField, ofAtom⟩, ofBoost⟩

/-! ## Collapsed texts -/

/-- If collapsing leaves no blanks but spaces, no other blank stood alone. -/
theorem loneBlanksAreSpaces_of_collapseBlanks {text : List Char} (worded : IsWorded text)
    (spaces : HasOnlySpaces (collapseBlanks text)) : LoneBlanksAreSpaces text := by
  induction worded with
  | word isWord => exact loneBlanksAreSpaces_word isWord
  | @more word gap rest isWord isGap restWorded inductionHypothesis =>
      rw [collapseBlanks_more isWord isGap restWorded, hasOnlySpaces_append,
        hasOnlySpaces_append] at spaces
      obtain ⟨-, ofGap, ofRest⟩ := spaces
      refine (loneBlanksAreSpaces_more isWord isGap restWorded).2 ⟨?_, inductionHypothesis ofRest⟩
      intro single
      obtain ⟨blank, rfl⟩ := List.length_eq_one_iff.1 single
      rw [ofGap blank List.mem_cons_self (isGap.blank blank List.mem_cons_self)]

end FacetedSearch.FullText
