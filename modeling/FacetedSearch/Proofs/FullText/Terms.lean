import FacetedSearch.Proofs.Engine.Solr.Atoms
import FacetedSearch.Proofs.Text.Runs

/-!
Contract: free texts as terms of the query language.

Owns:
- `IsTermOf`, a token without blanks, or words with single spaces between them in quotes, which
  stands for a text once its backslashes are taken away;
- `collapseBlanks_more`: collapsing replaces the gaps between words, but keeps a gap of one blank;
- `collapseBlanks_eq_squeezed_iff`: it leaves single spaces exactly if such a blank is a space;
- `term_eq_wildcard_iff` and `isTermOf_term_iff`: the same for terms.

A blank that is no space and stands alone between two words stays as it is, and is neither a reason
for quotes nor escaped: the term is two terms to the engine.

Does not own: queries over fields.
-/

namespace FacetedSearch.FullText

open Text

/-! ## Collapsing -/

theorem collapseAfter_visible {run : BlankRun} {rest : List Char}
    (visible : ∀ c ∈ rest.head?, isBlank c = false) :
    collapseAfter run rest = run.chars ++ collapseBlanks rest := by
  cases rest with
  | nil => simp [collapseBlanks, collapseAfter, BlankRun.chars]
  | cons c rest =>
      have isVisible := visible c rfl
      simp [collapseBlanks, collapseAfter, BlankRun.chars, isVisible]

theorem collapseBlanks_append {word : List Char} (visible : ∀ c ∈ word, isBlank c = false)
    (rest : List Char) : collapseBlanks (word ++ rest) = word ++ collapseBlanks rest := by
  induction word with
  | nil => rfl
  | cons c word inductionHypothesis =>
      obtain ⟨isVisible, othersVisible⟩ := List.forall_mem_cons.1 visible
      rw [List.cons_append, collapseBlanks, collapseAfter, isVisible, List.cons_append,
        ← inductionHypothesis othersVisible]
      rfl

theorem collapseAfter_several {gap : List Char} (blank : ∀ c ∈ gap, isBlank c = true)
    (rest : List Char) : collapseAfter .several (gap ++ rest) = collapseAfter .several rest := by
  induction gap with
  | nil => rfl
  | cons c gap inductionHypothesis =>
      obtain ⟨isBlank, othersBlank⟩ := List.forall_mem_cons.1 blank
      rw [List.cons_append, collapseAfter, if_pos isBlank]
      exact inductionHypothesis othersBlank

/-- What stands in the place of a gap: one blank stays as it is. -/
def collapsedGap : List Char → List Char
  | [blank] => [blank]
  | _ => [' ']

theorem isGap_collapsedGap {gap : List Char} (isGap : IsGap gap) : IsGap (collapsedGap gap) := by
  unfold collapsedGap
  split
  · exact isGap
  · exact ⟨List.cons_ne_nil _ _, List.forall_mem_singleton.2 (by decide)⟩

theorem collapseBlanks_gap {gap rest : List Char} (isGap : IsGap gap)
    (visible : ∀ c ∈ rest.head?, isBlank c = false) :
    collapseBlanks (gap ++ rest) = collapsedGap gap ++ collapseBlanks rest := by
  obtain ⟨notEmpty, blank⟩ := isGap
  match gap, notEmpty with
  | [c], _ =>
      rw [collapseBlanks, List.singleton_append, collapseAfter, if_pos (blank c (by simp))]
      exact collapseAfter_visible visible
  | c :: d :: gap, _ =>
      simp only [List.forall_mem_cons] at blank
      rw [collapseBlanks, List.cons_append, List.cons_append, collapseAfter, if_pos blank.1,
        collapseAfter, if_pos blank.2.1]
      exact (collapseAfter_several blank.2.2 rest).trans (collapseAfter_visible visible)

section

variable {word gap rest : List Char}

theorem collapseBlanks_word (isWord : IsWord word) : collapseBlanks word = word := by
  have alone := collapseBlanks_append isWord.visible []
  rw [List.append_nil] at alone
  exact alone.trans (List.append_nil word)

/-- Collapsing keeps the words. -/
theorem collapseBlanks_more (isWord : IsWord word) (isGap : IsGap gap)
    (restWorded : IsWorded rest) :
    collapseBlanks (word ++ (gap ++ rest)) = word ++ (collapsedGap gap ++ collapseBlanks rest) := by
  have visible : ∀ c ∈ rest.head?, isBlank c = false := by
    intro c isFirst
    obtain ⟨d, isFirst', isVisible⟩ := restWorded.first
    obtain rfl := Option.some.inj (isFirst.symm.trans isFirst')
    exact isVisible
  rw [collapseBlanks_append isWord.visible, collapseBlanks_gap isGap visible]

end

/-- A collapsed text has the same words. -/
theorem words_collapseBlanks {text : List Char} (worded : IsWorded text) :
    IsWorded (collapseBlanks text) ∧ words (collapseBlanks text) = words text := by
  induction worded with
  | word isWord =>
      rw [collapseBlanks_word isWord]
      exact ⟨.word isWord, rfl⟩
  | more isWord isGap restWorded inductionHypothesis =>
      obtain ⟨collapsedWorded, sameWords⟩ := inductionHypothesis
      rw [collapseBlanks_more isWord isGap restWorded,
        IsWorded.words_more isWord (isGap_collapsedGap isGap) collapsedWorded,
        IsWorded.words_more isWord isGap restWorded, sameWords]
      exact ⟨.more isWord (isGap_collapsedGap isGap) collapsedWorded, rfl⟩

/-! ## Lone blanks -/

/-- Whether each run of a single blank is a space. -/
def LoneBlanksAreSpaces (text : List Char) : Prop :=
  ∀ run ∈ runs text, run.length = 1 → run.all isBlank = true → run = [' ']

instance (text : List Char) : Decidable (LoneBlanksAreSpaces text) :=
  inferInstanceAs (Decidable (∀ run ∈ runs text, _ → _ → _))

theorem collapsedGap_eq_space_iff (gap : List Char) :
    collapsedGap gap = [' '] ↔ (gap.length = 1 → gap = [' ']) := by
  unfold collapsedGap
  split
  · simp
  · rename_i notSingle
    simp only [true_iff]
    intro single
    obtain ⟨c, rfl⟩ := List.length_eq_one_iff.1 single
    exact absurd rfl (notSingle c)

theorem length_collapsedGap (gap : List Char) : (collapsedGap gap).length = 1 := by
  unfold collapsedGap
  split
  · rfl
  · rfl

theorem loneBlanksAreSpaces_word {word : List Char} (isWord : IsWord word) :
    LoneBlanksAreSpaces word := by
  rw [LoneBlanksAreSpaces, isWord.runs_eq, List.forall_mem_singleton, isWord.all]
  rintro - ⟨⟩

theorem loneBlanksAreSpaces_more {word gap rest : List Char} (isWord : IsWord word)
    (isGap : IsGap gap) (restWorded : IsWorded rest) :
    LoneBlanksAreSpaces (word ++ (gap ++ rest)) ↔
      (gap.length = 1 → gap = [' ']) ∧ LoneBlanksAreSpaces rest := by
  simp only [LoneBlanksAreSpaces, IsWorded.runs_more isWord isGap restWorded,
    List.forall_mem_cons, isWord.all, isGap.all, Bool.false_eq_true, false_imp_iff, imp_true_iff,
    true_imp_iff, true_and]

/-- Collapsing leaves single spaces between the words exactly if no other blank stands alone. -/
theorem collapseBlanks_eq_squeezed_iff {text : List Char} (worded : IsWorded text) :
    collapseBlanks text = squeezed text ↔ LoneBlanksAreSpaces text := by
  induction worded with
  | word isWord =>
      rw [collapseBlanks_word isWord, IsWorded.squeezed_word isWord]
      exact iff_of_true rfl (loneBlanksAreSpaces_word isWord)
  | @more word gap rest isWord isGap restWorded inductionHypothesis =>
      rw [collapseBlanks_more isWord isGap restWorded,
        IsWorded.squeezed_more isWord isGap restWorded,
        loneBlanksAreSpaces_more isWord isGap restWorded, ← inductionHypothesis,
        ← collapsedGap_eq_space_iff, List.append_cancel_left_eq, ← List.singleton_append]
      constructor
      · intro same
        exact List.append_inj same (length_collapsedGap gap)
      · rintro ⟨sameGap, sameRest⟩
        rw [sameGap, sameRest]

/-! ## Escaped texts -/

theorem mem_escape_iff {c : Char} (literal : c ∉ specialCharacters) (text : List Char) :
    c ∈ escape text ↔ c ∈ text := by
  induction text with
  | nil => rfl
  | cons d rest inductionHypothesis =>
      rw [Solr.escape_cons, List.mem_append, inductionHypothesis, List.mem_cons]
      by_cases special : d ∈ specialCharacters
      · have notBackslash : c ≠ '\\' := by
          rintro rfl
          exact literal (by decide)
        simp [Solr.escapedForm_of_mem special, notBackslash]
      · simp [Solr.escapedForm_of_not_mem special]

theorem isWord_escape {word : List Char} (isWord : IsWord word) : IsWord (escape word) := by
  refine ⟨Solr.escape_ne_nil isWord.notEmpty, fun c member => ?_⟩
  by_cases special : c ∈ specialCharacters
  · have noneBlank : ∀ d ∈ specialCharacters, isBlank d = false :=
      forall_mem_of_all (by decide)
    exact noneBlank c special
  · exact isWord.visible c ((mem_escape_iff special word).1 member)

theorem escape_spaced (list : List (List Char)) :
    escape ([' '].intercalate list) = [' '].intercalate (list.map escape) := by
  induction list with
  | nil => rfl
  | cons word rest inductionHypothesis =>
      cases rest with
      | nil => rw [List.map_singleton, List.intercalate_singleton, List.intercalate_singleton]
      | cons next others =>
          rw [List.map_cons, List.map_cons, List.intercalate_cons_cons,
            List.intercalate_cons_cons, ← List.map_cons, ← inductionHypothesis]
          simp only [escape, List.flatMap_append]
          rfl

/-! ## Terms -/

/-- A character that needs no backslash. -/
def IsLiteral (c : Char) : Prop :=
  c ∉ specialCharacters

/-- Two words or more with single spaces between them. -/
def IsSpaced (text : List Char) : Prop :=
  ∃ list : List (List Char), 2 ≤ list.length ∧ (∀ word ∈ list, IsWord word) ∧
    text = [' '].intercalate list

/-- Whether a term of the query language stands for a text: it is one token, or some words between
quotes, in which a backslash stands before whatever has a meaning, and which are the text without
these backslashes. -/
inductive IsTermOf : (term text : List Char) → Prop where
  | token {token : List Char} (isWord : IsWord token) (escaped : Solr.Escaped IsLiteral token) :
      IsTermOf token (Solr.unescaped token)
  | phrase {inside : List Char} (spaced : IsSpaced inside)
      (escaped : Solr.Escaped IsLiteral inside) : IsTermOf (phrase inside) (Solr.unescaped inside)

/-- A text that is escaped does not begin with a character that has a meaning. -/
theorem escaped_head_ne {c : Char} (special : c ∈ specialCharacters) (notBackslash : c ≠ '\\')
    {rest : List Char} : ¬ Solr.Escaped IsLiteral (c :: rest) := by
  intro escaped
  cases escaped with
  | plain isLiteral => exact isLiteral special
  | escaped => exact notBackslash rfl

theorem escaped_escape (text : List Char) : Solr.Escaped IsLiteral (escape text) :=
  Solr.escaped_escape fun _ _ => id

section

variable {text : List Char}

/-- The term of a text that is neither blank nor the wildcard. -/
theorem term_eq (notBlank : trimBlanks text ≠ []) (notWildcard : trimBlanks text ≠ wildcard) :
    term text =
      if ' ' ∈ collapseBlanks (trimBlanks text) then
        phrase (escape (collapseBlanks (trimBlanks text)))
      else escape (collapseBlanks (trimBlanks text)) := by
  have space := mem_escape_iff (c := ' ') (by decide) (collapseBlanks (trimBlanks text))
  simp [term, notBlank, notWildcard, space]

/-- A text gives the wildcard only if it is blank or the wildcard itself. -/
theorem term_eq_wildcard_iff (text : List Char) :
    term text = wildcard ↔ trimBlanks text = [] ∨ trimBlanks text = wildcard := by
  constructor
  · intro isWildcard
    by_contra searched
    obtain ⟨notBlank, notWildcard⟩ := not_or.1 searched
    rw [term_eq notBlank notWildcard] at isWildcard
    split at isWildcard
    · cases isWildcard
    · exact escaped_head_ne (by decide) (by decide) (isWildcard ▸ escaped_escape _)
  · rintro (blank | isWildcard)
    · simp [term, blank]
    · simp [term, isWildcard]

theorem isWorded_trimBlanks (notBlank : trimBlanks text ≠ []) : IsWorded (trimBlanks text) :=
  (noBlankEnds_trimBlanks text).isWorded notBlank

/-- What a term stands for is the collapsed text. -/
theorem collapseBlanks_eq_of_isTermOf (notBlank : trimBlanks text ≠ [])
    (notWildcard : trimBlanks text ≠ wildcard) {stands : List Char}
    (isTerm : IsTermOf (term text) stands) : collapseBlanks (trimBlanks text) = stands := by
  rw [term_eq notBlank notWildcard] at isTerm
  split at isTerm
  · generalize isPhrase : phrase (escape (collapseBlanks (trimBlanks text))) = chars at isTerm
    cases isTerm with
    | token isWord escaped =>
        rw [← isPhrase] at escaped
        exact absurd escaped (escaped_head_ne (by decide) (by decide))
    | phrase spaced escaped =>
        injection isPhrase with _ same
        rw [← List.append_cancel_right same, Solr.unescaped_escape]
  · generalize isToken : escape (collapseBlanks (trimBlanks text)) = chars at isTerm
    cases isTerm with
    | token isWord escaped => rw [← isToken, Solr.unescaped_escape]
    | phrase spaced escaped =>
        exact absurd (isToken ▸ escaped_escape _) (escaped_head_ne (by decide) (by decide))

theorem isTermOf_escape {word : List Char} (isWord : IsWord word) :
    IsTermOf (escape word) word := by
  have isToken := IsTermOf.token (isWord_escape isWord) (escaped_escape word)
  rwa [Solr.unescaped_escape] at isToken

theorem isTermOf_phrase {list : List (List Char)} (several : 2 ≤ list.length)
    (each : ∀ word ∈ list, IsWord word) :
    IsTermOf (phrase (escape ([' '].intercalate list))) ([' '].intercalate list) := by
  have spaced : IsSpaced (escape ([' '].intercalate list)) := by
    refine ⟨list.map escape, by rwa [List.length_map], fun word member => ?_, escape_spaced list⟩
    obtain ⟨plain, inList, rfl⟩ := List.mem_map.1 member
    exact isWord_escape (each plain inList)
  have isPhrase := IsTermOf.phrase spaced (escaped_escape _)
  rwa [Solr.unescaped_escape] at isPhrase

/-- A text that is collapsed to words with single spaces between them has a term. -/
theorem isTermOf_of_eq_squeezed (notBlank : trimBlanks text ≠ [])
    (notWildcard : trimBlanks text ≠ wildcard)
    (same : collapseBlanks (trimBlanks text) = squeezed (trimBlanks text)) :
    IsTermOf (term text) (squeezed (trimBlanks text)) := by
  have worded := isWorded_trimBlanks notBlank
  have isWord := worded.isWord_of_mem_words
  rw [term_eq notBlank notWildcard, same, worded.squeezed_eq]
  cases list : words (trimBlanks text) with
  | nil => exact absurd list worded.words_ne_nil
  | cons word others =>
      rw [list] at isWord
      cases others with
      | nil =>
          have onlyWord := isWord word List.mem_cons_self
          have noSpace : ' ' ∉ word := fun member =>
            absurd (onlyWord.visible ' ' member) (by decide)
          rw [List.intercalate_singleton, if_neg noSpace]
          exact isTermOf_escape onlyWord
      | cons next rest =>
          rw [if_pos (by simp [List.intercalate_cons_cons])]
          exact isTermOf_phrase (by simp) isWord

end

/-- **A free text becomes one token or one phrase.** A text gives the wildcard only if it is blank
or the wildcard itself. The term of any other text is escaped throughout and has its words. It is a
single token or a phrase of words with single spaces between them, and stands for the text with
each run of blanks as one space, exactly if no other blank stands alone between two words. -/
theorem isTermOf_term_iff (text : List Char) :
    (term text = wildcard ↔ trimBlanks text = [] ∨ trimBlanks text = wildcard) ∧
    (trimBlanks text ≠ [] → trimBlanks text ≠ wildcard →
      (∃ inside, (term text = inside ∨ term text = phrase inside) ∧
        Solr.Escaped IsLiteral inside ∧
        words (Solr.unescaped inside) = words (trimBlanks text)) ∧
      (IsTermOf (term text) (squeezed (trimBlanks text)) ↔
        LoneBlanksAreSpaces (trimBlanks text))) := by
  refine ⟨term_eq_wildcard_iff text, fun notBlank notWildcard => ⟨?_, ?_⟩⟩
  · refine ⟨escape (collapseBlanks (trimBlanks text)), ?_, escaped_escape _, ?_⟩
    · rw [term_eq notBlank notWildcard]
      split
      · exact .inr rfl
      · exact .inl rfl
    · rw [Solr.unescaped_escape]
      exact (words_collapseBlanks (isWorded_trimBlanks notBlank)).2
  · rw [← collapseBlanks_eq_squeezed_iff (isWorded_trimBlanks notBlank)]
    constructor
    · exact collapseBlanks_eq_of_isTermOf notBlank notWildcard
    · exact isTermOf_of_eq_squeezed notBlank notWildcard

end FacetedSearch.FullText

/-! ## Observations of species -/

namespace FacetedSearch.Observations

open FullText Text

/-- A name with a remark in parentheses, with blanks of several kinds between its words. -/
def spacedName : List Char :=
  " Puma \t concolor\n\n(adult) ".toList

theorem isTermOf_term_iff_spacedName :
    trimBlanks spacedName ≠ [] ∧ trimBlanks spacedName ≠ wildcard ∧
      LoneBlanksAreSpaces (trimBlanks spacedName) ∧
      term spacedName = "\x22Puma concolor \\(adult\\)\x22".toList ∧
      IsTermOf (term spacedName) "Puma concolor (adult)".toList := by
  have notBlank : trimBlanks spacedName ≠ [] := by decide
  have notWildcard : trimBlanks spacedName ≠ wildcard := by decide
  have spaces : LoneBlanksAreSpaces (trimBlanks spacedName) := by decide +kernel
  have isTerm := ((isTermOf_term_iff spacedName).2 notBlank notWildcard).2.2 spaces
  have stands : squeezed (trimBlanks spacedName) = "Puma concolor (adult)".toList := by
    decide +kernel
  rw [stands] at isTerm
  exact ⟨notBlank, notWildcard, spaces, by decide +kernel, isTerm⟩

/-- A tab between two words stays where it is: the term is neither a token nor a phrase. -/
theorem lone_tab_stays :
    trimBlanks "puma\tconcolor".toList ≠ [] ∧ trimBlanks "puma\tconcolor".toList ≠ wildcard ∧
      term "puma\tconcolor".toList = "puma\tconcolor".toList ∧
      ∀ stands, ¬ IsTermOf (term "puma\tconcolor".toList) stands := by
  have unchanged : term "puma\tconcolor".toList = "puma\tconcolor".toList := by decide
  refine ⟨by decide, by decide, unchanged, fun stands isTerm => ?_⟩
  rw [unchanged] at isTerm
  generalize isChars : "puma\tconcolor".toList = chars at isTerm
  cases isTerm with
  | token isWord escaped =>
      exact absurd (isWord.visible '\t' (isChars ▸ by decide)) (by decide)
  | phrase spaced escaped => cases isChars

end FacetedSearch.Observations
