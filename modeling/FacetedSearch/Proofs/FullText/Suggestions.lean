import FacetedSearch.FullText.Suggestion
import FacetedSearch.Proofs.FullText.Nesting
import FacetedSearch.Proofs.FullText.Spaces

/-!
Contract: the shape of queries for suggestions.

Owns:
- `boostedWords_eq`: each word has the boost of its place, down to the least one;
- `SuggestionFields.phraseShape` and `SuggestionFields.wordShape`, the searches for some words;
- `SuggestionFields.KeepsShape`: the query is balanced, and its only derivation says these searches
  for the words of the text;
- `SuggestionFields.keepsShape_iff`: this is so exactly if the words need no backslashes and are
  separated by spaces.

The words are put into the query as they are. A word that needs a backslash is read as syntax.

Does not own: the grammar.
-/

namespace FacetedSearch.FullText

open Text Solr

/-! ## Boosts -/

/-- The boost of a word by its place. -/
def placeBoost (index : Nat) : Nat :=
  max 100 (300 - 100 * index)

theorem lowerBoost_placeBoost (index : Nat) :
    lowerBoost (placeBoost index) = placeBoost (index + 1) := by
  unfold lowerBoost boostStep placeBoost
  split
  · omega
  · omega

/-- The boosts go down place by place. -/
theorem boostedWords_eq (field : String) (index : Nat) (list : List (List Char)) :
    boostedWords field (placeBoost index) list =
      list.mapIdx fun later word => boosted field word (placeBoost (index + later)) := by
  induction list generalizing index with
  | nil => rfl
  | cons word rest inductionHypothesis =>
      rw [boostedWords, lowerBoost_placeBoost, inductionHypothesis, List.mapIdx_cons]
      simp only [Nat.add_zero, Nat.add_assoc, Nat.add_comm 1]

/-! ## Shapes -/

namespace SuggestionFields

/-- Whether the names of the fields have no meaning themselves. Letters and underscores have
none. -/
structure HasPlainNames (fields : SuggestionFields) : Prop where
  phraseField : ∀ c ∈ fields.phraseField.toList, IsPlain c
  field : ∀ c ∈ fields.field.toList, IsPlain c

/-- The searches for some words in the field of phrases. -/
def phraseShape (fields : SuggestionFields) : List (List Char) → List Search
  | [] => [⟨fields.phraseField.toList, .anything, 1000⟩]
  | [word] => [⟨fields.phraseField.toList, .word word, 1000⟩]
  | first :: others =>
      [⟨fields.phraseField.toList, .phrase ([' '].intercalate (first :: others)), 1000⟩,
       ⟨fields.phraseField.toList, .word first, 1000⟩]

/-- The searches for each of some words, the earlier ones with the greater boost. -/
def wordShape (fields : SuggestionFields) : List (List Char) → List Search
  | [] => [⟨fields.field.toList, .anything, 300⟩]
  | first :: others => (first :: others).mapIdx fun index word =>
      ⟨fields.field.toList, .word word, placeBoost index⟩

/-- Whether the query for a text is balanced, and has one derivation only, which says the searches
for the words of the text. -/
structure KeepsShape (fields : SuggestionFields) (text : String) : Prop where
  balanced : IsBalanced (fields.query text).toList
  reading : ∃ groups : Groups,
    groups.left.map Clause.search = fields.phraseShape (words (trimBlanks text.toList)) ∧
    groups.right.map Clause.search = fields.wordShape (words (trimBlanks text.toList)) ∧
    ∀ other : Groups, other.chars = (fields.query text).toList ↔ other = groups

variable {fields : SuggestionFields}

/-- The query for a text, whatever its words are. -/
theorem query_eq (fields : SuggestionFields) (text : String) :
    (fields.query text).toList =
      grouped (fields.wholeSearches (suggestionText text.toList))
        ((pieces ' ' (suggestionText text.toList)).mapIdx fun index word =>
          boosted fields.field word (placeBoost index)) := by
  have boosts := boostedWords_eq fields.field 0 (pieces ' ' (suggestionText text.toList))
  simp only [Nat.zero_add] at boosts
  rw [query, String.toList_ofList, ← boosts, alternatives_cons_cons]
  simp only [alternatives, grouped, List.cons_append, List.append_assoc, List.nil_append]
  rfl

theorem query_of_blank {text : String} (blank : trimBlanks text.toList = []) :
    (fields.query text).toList =
      grouped ((fields.phraseShape []).map Search.chars)
        ((fields.wordShape []).map Search.chars) := by
  have isWildcard : suggestionText text.toList = wildcard := by
    rw [suggestionText, blank]
    rfl
  rw [query_eq, isWildcard]
  rfl

theorem map_wordShape (list : List (List Char)) (someWord : list ≠ []) :
    (fields.wordShape list).map Search.chars =
      list.mapIdx fun index word => boosted fields.field word (placeBoost index) := by
  cases list with
  | nil => exact absurd rfl someWord
  | cons first others =>
      rw [wordShape, eq_comm, List.mapIdx_eq_iff]
      intro index
      rw [List.getElem?_map, List.getElem?_mapIdx, Option.map_map]
      rfl

theorem map_phraseShape {list : List (List Char)} (someWord : list ≠ [])
    (each : ∀ word ∈ list, IsWord word) :
    (fields.phraseShape list).map Search.chars =
      fields.wholeSearches ([' '].intercalate list) := by
  rw [wholeSearches, pieces_spaced someWord each]
  match list, someWord with
  | [word], _ =>
      rw [List.intercalate_singleton]
      rfl
  | first :: second :: rest, _ => rfl

/-- The query for words with single spaces between them. -/
theorem query_of_words {text : String} (notBlank : trimBlanks text.toList ≠ [])
    (spaces : LoneBlanksAreSpaces (trimBlanks text.toList)) :
    (fields.query text).toList =
      grouped ((fields.phraseShape (words (trimBlanks text.toList))).map Search.chars)
        ((fields.wordShape (words (trimBlanks text.toList))).map Search.chars) := by
  have worded := isWorded_trimBlanks notBlank
  have isWord := worded.isWord_of_mem_words
  have spaced : suggestionText text.toList =
      [' '].intercalate (words (trimBlanks text.toList)) := by
    rw [← worded.squeezed_eq, ← (collapseBlanks_eq_squeezed_iff worded).2 spaces, suggestionText,
      if_neg (mt List.isEmpty_iff.1 notBlank)]
  rw [query_eq, spaced, map_phraseShape worded.words_ne_nil isWord,
    map_wordShape _ worded.words_ne_nil, pieces_spaced worded.words_ne_nil isWord]

/-! ## Words that need no backslash -/

theorem exists_of_mem_wordShape {list : List (List Char)} {search : Search}
    (member : search ∈ fields.wordShape list) :
    search.field = fields.field.toList ∧
      (search.sought = .anything ∨ ∃ word ∈ list, search.sought = .word word) := by
  cases list with
  | nil =>
      rw [wordShape, List.mem_singleton] at member
      exact member ▸ ⟨rfl, .inl rfl⟩
  | cons first others =>
      obtain ⟨index, below, rfl⟩ := List.mem_mapIdx.1 member
      exact ⟨rfl, .inr ⟨_, List.getElem_mem below, rfl⟩⟩

theorem exists_of_mem_phraseShape {list : List (List Char)} {search : Search}
    (member : search ∈ fields.phraseShape list) :
    search.field = fields.phraseField.toList ∧
      (search.sought = .anything ∨ search.sought = .phrase ([' '].intercalate list) ∨
        ∃ word ∈ list, search.sought = .word word) := by
  match list with
  | [] =>
      rw [phraseShape, List.mem_singleton] at member
      exact member ▸ ⟨rfl, .inl rfl⟩
  | [word] =>
      rw [phraseShape, List.mem_singleton] at member
      exact member ▸ ⟨rfl, .inr (.inr ⟨word, List.mem_cons_self, rfl⟩)⟩
  | first :: second :: rest =>
      rw [phraseShape, List.mem_cons, List.mem_singleton] at member
      · rcases member with rfl | rfl
        · exact ⟨rfl, .inr (.inl rfl)⟩
        · exact ⟨rfl, .inr (.inr ⟨first, List.mem_cons_self, rfl⟩)⟩
      · simp

/-- What is searched for is anything, a word, or all words with single spaces between them. -/
theorem sought_of_mem_shapes {list : List (List Char)} {search : Search}
    (member : search ∈ fields.phraseShape list ++ fields.wordShape list) :
    search.sought = .anything ∨ search.sought = .phrase ([' '].intercalate list) ∨
      ∃ word ∈ list, search.sought = .word word := by
  rcases List.mem_append.1 member with inPhrases | inWords
  · exact (exists_of_mem_phraseShape inPhrases).2
  · exact (exists_of_mem_wordShape inWords).2.imp_right .inr

/-- The searches for some words need no backslash exactly if the words need none. -/
theorem verbatim_shapes_iff {list : List (List Char)} (each : ∀ word ∈ list, IsWord word) :
    (∀ search ∈ fields.phraseShape list ++ fields.wordShape list, search.sought.IsVerbatim) ↔
      ∀ word ∈ list, (∀ c ∈ word, c ∉ specialCharacters) ∧ word ∉ operatorWords := by
  constructor
  · intro verbatim word member
    obtain ⟨first, others, rfl⟩ := List.exists_cons_of_ne_nil (List.ne_nil_of_mem member)
    obtain ⟨index, below, isWord⟩ := List.getElem_of_mem member
    have inShape : ⟨fields.field.toList, .word word, placeBoost index⟩ ∈
        fields.wordShape (first :: others) :=
      List.mem_mapIdx.2 ⟨index, below, by rw [isWord]⟩
    obtain ⟨-, plain, isTerm⟩ := verbatim _ (List.mem_append_right _ inShape)
    exact ⟨fun c inWord => (plain c inWord).1, isTerm⟩
  · intro plain search member
    rcases sought_of_mem_shapes member with anything | isPhrase | ⟨word, inList, isWord⟩
    · rw [anything]
      trivial
    · rw [isPhrase]
      intro c inPhrase
      rcases mem_spaced inPhrase with rfl | ⟨word, inList, inWord⟩
      · exact isQuotable_of_not_mem (by decide)
      · exact isQuotable_of_not_mem ((plain word inList).1 c inWord)
    · rw [isWord]
      obtain ⟨noSpecial, isTerm⟩ := plain word inList
      exact ⟨(each word inList).notEmpty, fun c inWord =>
        ⟨noSpecial c inWord, (each word inList).visible c inWord⟩, isTerm⟩

/-! ## Kept shapes -/

theorem hasOnlySpaces_shapes {list : List (List Char)} (each : ∀ word ∈ list, IsWord word)
    {search : Search} (member : search ∈ fields.phraseShape list ++ fields.wordShape list) :
    HasOnlySpaces search.sought.chars := by
  rcases sought_of_mem_shapes member with anything | isPhrase | ⟨word, inList, isWord⟩
  · rw [anything]
    exact hasOnlySpaces_of_visible (List.forall_mem_singleton.2 (by decide))
  · rw [isPhrase]
    exact (hasOnlySpaces_phrase_iff _).2 (hasOnlySpaces_spaced each)
  · rw [isWord]
    exact hasOnlySpaces_of_visible (each word inList).visible

/-- The text is one of its own searches. -/
theorem hasOnlySpaces_of_wholeSearches {text : List Char}
    (spaces : ∀ search ∈ fields.wholeSearches text, HasOnlySpaces search) : HasOnlySpaces text := by
  have ofBoosted {field : String} {inside : List Char} {boost : Nat}
      (whole : HasOnlySpaces (boosted field inside boost)) : HasOnlySpaces inside := by
    simp (disch := decide) only [boosted, hasOnlySpaces_append,
      hasOnlySpaces_cons_of_visible] at whole
    exact whole.1.2
  unfold wholeSearches at spaces
  split at spaces
  · exact (hasOnlySpaces_phrase_iff text).1 (ofBoosted (spaces _ List.mem_cons_self))
  · exact ofBoosted (spaces _ List.mem_cons_self)

/-- A query that says the searches for the words has no blanks but spaces. -/
theorem loneBlanksAreSpaces_of_says {text : String} (notBlank : trimBlanks text.toList ≠ [])
    {groups : Groups} (isQuery : groups.chars = (fields.query text).toList)
    (leftSays : groups.left.map Clause.search =
      fields.phraseShape (words (trimBlanks text.toList)))
    (rightSays : groups.right.map Clause.search =
      fields.wordShape (words (trimBlanks text.toList))) :
    LoneBlanksAreSpaces (trimBlanks text.toList) := by
  have worded := isWorded_trimBlanks notBlank
  have ofClauses : ∀ clause ∈ groups.left ++ groups.right, HasOnlySpaces clause.chars := by
    intro clause member
    have inShapes : clause.search ∈ fields.phraseShape (words (trimBlanks text.toList)) ++
        fields.wordShape (words (trimBlanks text.toList)) := by
      rw [← leftSays, ← rightSays, ← List.map_append]
      exact List.mem_map_of_mem member
    exact hasOnlySpaces_clause (hasOnlySpaces_shapes worded.isWord_of_mem_words inShapes)
  obtain ⟨ofLeft, ofRight⟩ := List.forall_mem_append.1 ofClauses
  have ofQuery := (hasOnlySpaces_grouped_iff _ _).2
    ⟨List.forall_mem_map.2 ofLeft, List.forall_mem_map.2 ofRight⟩
  change HasOnlySpaces groups.chars at ofQuery
  rw [isQuery, query_eq, hasOnlySpaces_grouped_iff] at ofQuery
  have ofText := hasOnlySpaces_of_wholeSearches ofQuery.1
  rw [suggestionText, if_neg (mt List.isEmpty_iff.1 notBlank)] at ofText
  exact loneBlanksAreSpaces_of_collapseBlanks worded ofText

theorem phraseShape_ne_nil (fields : SuggestionFields) (list : List (List Char)) :
    fields.phraseShape list ≠ [] := by
  unfold phraseShape
  split
  · exact List.cons_ne_nil _ _
  · exact List.cons_ne_nil _ _
  · exact List.cons_ne_nil _ _

theorem wordShape_ne_nil (fields : SuggestionFields) (list : List (List Char)) :
    fields.wordShape list ≠ [] := by
  cases list with
  | nil => exact List.cons_ne_nil _ _
  | cons first others =>
      rw [wordShape, List.mapIdx_cons]
      exact List.cons_ne_nil _ _

theorem HasPlainNames.shapes (plainNames : fields.HasPlainNames) {list : List (List Char)} :
    ∀ search ∈ fields.phraseShape list ++ fields.wordShape list,
      ∀ c ∈ search.field, IsPlain c := by
  intro search member
  rcases List.mem_append.1 member with inPhrases | inWords
  · rw [(exists_of_mem_phraseShape inPhrases).1]
    exact plainNames.phraseField
  · rw [(exists_of_mem_wordShape inWords).1]
    exact plainNames.field

/-- A query whose text is that of the searches for the words keeps its shape exactly if these need
no backslash. -/
theorem keepsShape_iff_verbatim (plainNames : fields.HasPlainNames) {text : String}
    (isShape : (fields.query text).toList =
      grouped ((fields.phraseShape (words (trimBlanks text.toList))).map Search.chars)
        ((fields.wordShape (words (trimBlanks text.toList))).map Search.chars)) :
    fields.KeepsShape text ↔
      ∀ search ∈ fields.phraseShape (words (trimBlanks text.toList)) ++
        fields.wordShape (words (trimBlanks text.toList)), search.sought.IsVerbatim := by
  rw [← exists_groups_iff (fields.phraseShape_ne_nil _) (fields.wordShape_ne_nil _)
    plainNames.shapes, ← isShape]
  constructor
  · rintro ⟨-, groups, leftSays, rightSays, onlyReading⟩
    exact ⟨groups, (onlyReading groups).2 rfl, leftSays, rightSays⟩
  · rintro ⟨groups, isQuery, leftSays, rightSays⟩
    refine ⟨isQuery ▸ groups.isBalanced_chars, groups, leftSays, rightSays, fun other => ?_⟩
    rw [← isQuery]
    exact ⟨Groups.eq_of_chars_eq, fun same => same ▸ rfl⟩

/-- **Queries for suggestions.** The query of a text is two groups, whatever its words are: the
searches for the whole text, and one search for each piece between spaces, with boosts that go
down from 300 to 100. It is balanced, and its only derivation says the searches for the words of the
text, exactly if the text is blank, or no blank but the space stands alone between its words and
none of them needs a backslash or is an operator. -/
theorem keepsShape_iff (plainNames : fields.HasPlainNames) (text : String) :
    (fields.query text).toList =
      grouped (fields.wholeSearches (suggestionText text.toList))
        ((pieces ' ' (suggestionText text.toList)).mapIdx fun index word =>
          boosted fields.field word (max 100 (300 - 100 * index))) ∧
    (fields.KeepsShape text ↔
      trimBlanks text.toList = [] ∨
      LoneBlanksAreSpaces (trimBlanks text.toList) ∧
        ∀ word ∈ words (trimBlanks text.toList),
          (∀ c ∈ word, c ∉ specialCharacters) ∧ word ∉ operatorWords) := by
  refine ⟨fields.query_eq text, ?_⟩
  by_cases blank : trimBlanks text.toList = []
  · have noWords : words (trimBlanks text.toList) = [] := by
      rw [blank]
      rfl
    refine iff_of_true ((keepsShape_iff_verbatim plainNames ?_).2 ?_) (.inl blank)
    · rw [noWords]
      exact query_of_blank blank
    · rw [noWords, verbatim_shapes_iff (List.forall_mem_nil _)]
      exact List.forall_mem_nil _
  · rw [or_iff_right blank]
    have isWord := (isWorded_trimBlanks blank).isWord_of_mem_words
    have ofSpaces (spaces : LoneBlanksAreSpaces (trimBlanks text.toList)) :=
      (keepsShape_iff_verbatim plainNames (query_of_words blank spaces)).trans
        (verbatim_shapes_iff isWord)
    constructor
    · intro keeps
      obtain ⟨groups, leftSays, rightSays, onlyReading⟩ := keeps.reading
      have spaces := loneBlanksAreSpaces_of_says blank ((onlyReading groups).2 rfl) leftSays
        rightSays
      exact ⟨spaces, (ofSpaces spaces).1 keeps⟩
    · rintro ⟨spaces, plain⟩
      exact (ofSpaces spaces).2 plain

end SuggestionFields

end FacetedSearch.FullText

/-! ## Observations of species -/

namespace FacetedSearch.Observations

open FullText Text

/-- The fields of the names of species. -/
def nameFields : SuggestionFields :=
  ⟨"canonical_name_auto", "canonical_name"⟩

theorem nameFields_hasPlainNames : nameFields.HasPlainNames :=
  ⟨forall_mem_of_all (by decide), forall_mem_of_all (by decide)⟩

/-- Words with blanks of several kinds between them. -/
def typedName : String :=
  " Puma \t concolor cougar NOTE"

theorem keepsShape_iff_typedName :
    nameFields.HasPlainNames ∧ LoneBlanksAreSpaces (trimBlanks typedName.toList) ∧
      (nameFields.wordShape (words (trimBlanks typedName.toList))).map Search.boost =
        [300, 200, 100, 100] ∧
      nameFields.KeepsShape typedName := by
  have keeps := (SuggestionFields.keepsShape_iff nameFields_hasPlainNames typedName).2
  have spaces : LoneBlanksAreSpaces (trimBlanks typedName.toList) := by decide +kernel
  have plain : ∀ word ∈ words (trimBlanks typedName.toList),
      (word.all fun c => decide (c ∉ specialCharacters)) = true ∧ word ∉ operatorWords := by
    decide +kernel
  refine ⟨nameFields_hasPlainNames, spaces, by decide +kernel, keeps.2 (.inr ⟨spaces, ?_⟩)⟩
  intro word isWord
  exact ⟨forall_mem_of_all (plain word isWord).1, (plain word isWord).2⟩

/-- A parenthesis in a word opens a group that nothing closes. -/
theorem parenthesis_unbalances :
    nameFields.HasPlainNames ∧
      nameFields.query "(" = "(canonical_name_auto:(^1000) OR (canonical_name:(^300)" ∧
      ¬ IsBalanced (nameFields.query "(").toList ∧ ¬ nameFields.KeepsShape "(" := by
  have unbalanced : ¬ IsBalanced (nameFields.query "(").toList := by
    rw [SuggestionFields.query, String.toList_ofList]
    decide +kernel
  exact ⟨nameFields_hasPlainNames, rfl, unbalanced,
    fun keeps => unbalanced keeps.balanced⟩

end FacetedSearch.Observations
