import FacetedSearch.Proofs.Text.Trimming
import FacetedSearch.Text.Splitting
import Mathlib.Data.List.SplitBy

/-!
Contract: the words of a text and the gaps between them.

Owns:
- `runs`, the longest parts of a text that are blank throughout or free of blanks;
- `squeezed`, the text with each run of blanks as one space, and `words`, the runs without blanks;
- `IsWorded`, texts of words with gaps between them, which non-empty texts without blanks at their
  ends are;
- `IsWorded.squeezed_eq`: such a text is squeezed to its words with single spaces between them, and
  `pieces_spaced`: which are cut into these words at the spaces.

Does not own: the collapsing of blanks in terms.
-/

namespace FacetedSearch

namespace Text

/-! ## Runs -/

/-- The longest parts of a text that are blank throughout or free of blanks. -/
def runs (text : List Char) : List (List Char) :=
  text.splitBy fun left right => isBlank left == isBlank right

/-- The text with each run of blanks as one space. -/
def squeezed (text : List Char) : List Char :=
  (runs text).flatMap fun run => if run.all isBlank then [' '] else run

/-- The runs of a text that are free of blanks. -/
def words (text : List Char) : List (List Char) :=
  (runs text).filter fun run => !run.all isBlank

/-- A non-empty text of blanks. -/
structure IsGap (run : List Char) : Prop where
  notEmpty : run ≠ []
  blank : ∀ c ∈ run, isBlank c = true

/-- A non-empty text without blanks. -/
structure IsWord (run : List Char) : Prop where
  notEmpty : run ≠ []
  visible : ∀ c ∈ run, isBlank c = false

section

variable {run rest : List Char}

theorem runs_append {blank : Bool} (notEmpty : run ≠ []) (each : ∀ c ∈ run, isBlank c = blank)
    (next : ∀ c ∈ rest.head?, isBlank c ≠ blank) : runs (run ++ rest) = run :: runs rest := by
  have differs : ∀ c ∈ run.getLast?, ∀ d ∈ rest.head?, (isBlank c == isBlank d) = false := by
    intro c isLast d isNext
    rw [each c (List.mem_of_mem_getLast? isLast), beq_eq_false_iff_ne]
    exact (next d isNext).symm
  have uniform : run.IsChain fun c d => (isBlank c == isBlank d) = true := by
    refine List.Pairwise.isChain (List.pairwise_of_forall_mem_list fun c inRun d inRun' => ?_)
    rw [each c inRun, each d inRun', beq_self_eq_true]
  rw [runs, List.splitBy_append differs, List.splitBy_of_isChain notEmpty uniform]
  rfl

theorem IsGap.all (isGap : IsGap run) : run.all isBlank = true :=
  List.all_eq_true.2 isGap.blank

theorem IsWord.all (isWord : IsWord run) : run.all isBlank = false := by
  obtain ⟨c, others, rfl⟩ := List.exists_cons_of_ne_nil isWord.notEmpty
  rw [List.all_cons, isWord.visible c List.mem_cons_self, Bool.false_and]

theorem IsWord.runs_eq (isWord : IsWord run) : runs run = [run] := by
  have alone : runs (run ++ []) = run :: runs [] :=
    runs_append isWord.notEmpty isWord.visible (by simp)
  rwa [List.append_nil] at alone

end

/-! ## Words with gaps between them -/

/-- A text of words with gaps between them. -/
inductive IsWorded : List Char → Prop where
  | word {word : List Char} (isWord : IsWord word) : IsWorded word
  | more {word gap rest : List Char} (isWord : IsWord word) (isGap : IsGap gap)
      (restWorded : IsWorded rest) : IsWorded (word ++ (gap ++ rest))

namespace IsWorded

variable {text : List Char}

theorem first (worded : IsWorded text) : ∃ c ∈ text.head?, isBlank c = false := by
  have ofWord {word : List Char} (isWord : IsWord word) (rest : List Char) :
      ∃ c ∈ (word ++ rest).head?, isBlank c = false := by
    obtain ⟨c, others, rfl⟩ := List.exists_cons_of_ne_nil isWord.notEmpty
    exact ⟨c, rfl, isWord.visible c List.mem_cons_self⟩
  cases worded with
  | word isWord => simpa using ofWord isWord []
  | more isWord _ _ => exact ofWord isWord _

theorem runs_more {word gap rest : List Char} (isWord : IsWord word) (isGap : IsGap gap)
    (restWorded : IsWorded rest) :
    runs (word ++ (gap ++ rest)) = word :: gap :: runs rest := by
  have wordNext : ∀ c ∈ rest.head?, isBlank c ≠ true := by
    intro c isFirst
    obtain ⟨d, isFirst', visible⟩ := restWorded.first
    obtain rfl := Option.some.inj (isFirst.symm.trans isFirst')
    simp [visible]
  have gapNext : ∀ c ∈ (gap ++ rest).head?, isBlank c ≠ false := by
    obtain ⟨blank, others, rfl⟩ := List.exists_cons_of_ne_nil isGap.notEmpty
    intro c isFirst
    obtain rfl : blank = c := Option.some.inj isFirst
    simp [isGap.blank blank List.mem_cons_self]
  rw [runs_append isWord.notEmpty isWord.visible gapNext,
    runs_append isGap.notEmpty isGap.blank wordNext]

theorem words_word {word : List Char} (isWord : IsWord word) : words word = [word] := by
  simp [words, isWord.runs_eq, isWord.all]

theorem words_more {word gap rest : List Char} (isWord : IsWord word) (isGap : IsGap gap)
    (restWorded : IsWorded rest) : words (word ++ (gap ++ rest)) = word :: words rest := by
  simp [words, runs_more isWord isGap restWorded, isWord.all, isGap.all]

theorem isWord_of_mem_words (worded : IsWorded text) : ∀ word ∈ words text, IsWord word := by
  induction worded with
  | word isWord =>
      rw [words_word isWord]
      exact List.forall_mem_singleton.2 isWord
  | more isWord isGap restWorded inductionHypothesis =>
      rw [words_more isWord isGap restWorded]
      exact List.forall_mem_cons.2 ⟨isWord, inductionHypothesis⟩

theorem words_ne_nil (worded : IsWorded text) : words text ≠ [] := by
  cases worded with
  | word isWord => simp [words_word isWord]
  | more isWord isGap restWorded => simp [words_more isWord isGap restWorded]

theorem squeezed_word {word : List Char} (isWord : IsWord word) : squeezed word = word := by
  rw [squeezed, isWord.runs_eq, List.flatMap_singleton, isWord.all]
  rfl

theorem squeezed_more {word gap rest : List Char} (isWord : IsWord word) (isGap : IsGap gap)
    (restWorded : IsWorded rest) :
    squeezed (word ++ (gap ++ rest)) = word ++ ' ' :: squeezed rest := by
  rw [squeezed, runs_more isWord isGap restWorded, List.flatMap_cons, List.flatMap_cons,
    isWord.all, isGap.all]
  rfl

/-- A squeezed text are its words with single spaces between them. -/
theorem squeezed_eq (worded : IsWorded text) :
    squeezed text = [' '].intercalate (words text) := by
  induction worded with
  | word isWord => rw [squeezed_word isWord, words_word isWord, List.intercalate_singleton]
  | more isWord isGap restWorded inductionHypothesis =>
      rw [squeezed_more isWord isGap restWorded, words_more isWord isGap restWorded,
        List.intercalate_cons_of_ne_nil restWorded.words_ne_nil, inductionHypothesis,
        List.append_assoc, List.singleton_append]

end IsWorded

theorem mem_spaced {list : List (List Char)} {c : Char} (member : c ∈ [' '].intercalate list) :
    c = ' ' ∨ ∃ word ∈ list, c ∈ word := by
  induction list with
  | nil => simp at member
  | cons word rest inductionHypothesis =>
      by_cases isLast : rest = []
      · rw [isLast, List.intercalate_singleton] at member
        exact .inr ⟨word, List.mem_cons_self, member⟩
      · rw [List.intercalate_cons_of_ne_nil isLast] at member
        simp only [List.mem_append, List.mem_singleton] at member
        rcases member with (inWord | isSpace) | inRest
        · exact .inr ⟨word, List.mem_cons_self, inWord⟩
        · exact .inl isSpace
        · exact (inductionHypothesis inRest).imp_right fun ⟨other, inList, inOther⟩ =>
            ⟨other, List.mem_cons_of_mem word inList, inOther⟩

/-! ## Pieces -/

theorem pieces_of_not_mem {separator : Char} {piece : List Char} (absent : separator ∉ piece) :
    pieces separator piece = [piece] := by
  induction piece with
  | nil => rfl
  | cons c rest inductionHypothesis =>
      rw [List.mem_cons, not_or] at absent
      rw [pieces, if_neg (Ne.symm absent.1), inductionHypothesis absent.2]

theorem pieces_append {separator : Char} {piece : List Char} (absent : separator ∉ piece)
    (rest : List Char) :
    pieces separator (piece ++ separator :: rest) = piece :: pieces separator rest := by
  induction piece with
  | nil => rw [List.nil_append, pieces, if_pos rfl]
  | cons c others inductionHypothesis =>
      rw [List.mem_cons, not_or] at absent
      rw [List.cons_append, pieces, if_neg (Ne.symm absent.1), inductionHypothesis absent.2]

/-- Words with single spaces between them are what is between these spaces. -/
theorem pieces_spaced {list : List (List Char)} (someWord : list ≠ [])
    (each : ∀ word ∈ list, IsWord word) : pieces ' ' ([' '].intercalate list) = list := by
  have noSpace {word : List Char} (isWord : IsWord word) : ' ' ∉ word := fun inWord =>
    absurd (isWord.visible ' ' inWord) (by decide)
  induction list with
  | nil => exact absurd rfl someWord
  | cons word rest inductionHypothesis =>
      obtain ⟨isWord, restEach⟩ := List.forall_mem_cons.1 each
      by_cases isLast : rest = []
      · rw [isLast, List.intercalate_singleton, pieces_of_not_mem (noSpace isWord)]
      · rw [List.intercalate_cons_of_ne_nil isLast, List.append_assoc, List.singleton_append,
          pieces_append (noSpace isWord), inductionHypothesis isLast restEach]

end Text

open Text

/-! ## Texts without blanks at their ends -/

/-- Behind a gap there is a shorter text without blanks at its ends. -/
theorem exists_gap {text : List Char} (first : ∃ c ∈ text.head?, isBlank c = true)
    (last : ∀ c ∈ text.getLast?, isBlank c = false) :
    ∃ gap rest, IsGap gap ∧ rest ≠ [] ∧ NoBlankEnds rest ∧ text = gap ++ rest := by
  obtain ⟨c, isFirst, blank⟩ := first
  have split := List.takeWhile_append_dropWhile (p := isBlank) (l := text)
  have isGap : IsGap (text.takeWhile isBlank) := by
    refine ⟨?_, List.all_eq_true.1 List.all_takeWhile⟩
    obtain ⟨others, rfl⟩ := List.head?_eq_some_iff.1 isFirst
    simp [blank]
  have notBlank := List.head?_dropWhile_not isBlank text
  cases behind : text.dropWhile isBlank with
  | nil =>
      -- The last character would be one of the gap.
      rw [behind, List.append_nil] at split
      rw [split] at isGap
      have isLast := List.getLast?_eq_some_getLast isGap.notEmpty
      have stillBlank := isGap.blank _ (List.mem_of_getLast? isLast)
      rw [last _ isLast] at stillBlank
      cases stillBlank
  | cons next others =>
      rw [behind] at split notBlank
      refine ⟨_, _, isGap, List.cons_ne_nil next others, ⟨?_, ?_⟩, split.symm⟩
      · intro d isNext
        obtain rfl : next = d := Option.some.inj isNext
        simpa using notBlank
      · intro d isLast
        refine last d ?_
        rw [← split, List.getLast?_append, Option.mem_def.1 isLast]
        rfl

theorem NoBlankEnds.isWorded {text : List Char} (ends : NoBlankEnds text) (notEmpty : text ≠ []) :
    IsWorded text := by
  induction size : text.length using Nat.strong_induction_on generalizing text with
  | _ size inductionHypothesis =>
      let isVisible := fun c => !isBlank c
      have split := List.takeWhile_append_dropWhile (p := isVisible) (l := text)
      have isWord : IsWord (text.takeWhile isVisible) := by
        constructor
        · obtain ⟨c, others, rfl⟩ := List.exists_cons_of_ne_nil notEmpty
          simp [isVisible, ends.first c rfl]
        · intro c member
          simpa [isVisible] using List.all_eq_true.1 List.all_takeWhile c member
      have notVisible := List.head?_dropWhile_not isVisible text
      cases behind : text.dropWhile isVisible with
      | nil =>
          rw [behind, List.append_nil] at split
          rw [split] at isWord
          exact .word isWord
      | cons next others =>
          rw [behind] at split notVisible
          have first : ∃ c ∈ (next :: others).head?, isBlank c = true :=
            ⟨next, rfl, by simpa [isVisible] using notVisible⟩
          have last : ∀ c ∈ (next :: others).getLast?, isBlank c = false := by
            intro c isLast
            refine ends.last c ?_
            rw [← split, List.getLast?_append, Option.mem_def.1 isLast]
            rfl
          obtain ⟨gap, rest, isGap, someRest, restEnds, restSplit⟩ := exists_gap first last
          rw [restSplit] at split
          have shorter := congrArg List.length split
          have filled := List.length_pos_iff.2 isWord.notEmpty
          simp only [List.length_append] at shorter
          rw [← split]
          exact .more isWord isGap
            (inductionHypothesis rest.length (by omega) restEnds someRest rfl)

end FacetedSearch
