import FacetedSearch.Response.Highlight
import Mathlib.Data.List.Basic

/-!
Contract: the removal of marks undoes their insertion.

Owns:
- `MarkedText`, a text with passages that may be marked, `MarkedText.withMarks` and
  `MarkedText.plain`, its two written forms, and `MarkedText.IsClear`, which says that no mark can
  begin before its place;
- `cleanChars_withMarks`: of a clear text the removal of marks gives the plain form;
- `exists_markedText`: every text is some text with marks of which their removal gives the plain
  form, so that only complete pairs of marks are lost;
- `cleanMarks_withMarks`: both for texts, with what the second one says about order and size.

Does not own: snippets and their places in lists.
-/

namespace FacetedSearch

open Text

/-! ## Marked texts -/

/-- A passage that may be marked, and the text behind it. -/
structure Passage where
  marked : List Char
  after : List Char

/-- A text that begins without marks and goes on with passages. -/
structure MarkedText where
  first : List Char
  passages : List Passage

namespace MarkedText

variable {opening closing : List Char}

/-- The text with a pair of marks around each passage. -/
def withMarks (opening closing : List Char) (text : MarkedText) : List Char :=
  text.first ++ text.passages.flatMap fun passage =>
    opening ++ passage.marked ++ closing ++ passage.after

/-- The text without marks. -/
def plain (text : MarkedText) : List Char :=
  text.first ++ text.passages.flatMap fun passage => passage.marked ++ passage.after

/-- Whether the first character of a mark is nowhere where the mark is looked for: that of the
opening mark outside the passages, and that of the closing mark inside. -/
structure IsClear (opening closing : List Char) (text : MarkedText) : Prop where
  first : ∀ c ∈ opening.head?, c ∉ text.first
  marked : ∀ passage ∈ text.passages, ∀ c ∈ closing.head?, c ∉ passage.marked
  after : ∀ passage ∈ text.passages, ∀ c ∈ opening.head?, c ∉ passage.after

theorem withMarks_cons (first : List Char) (passage : Passage) (rest : List Passage) :
    withMarks opening closing ⟨first, passage :: rest⟩ =
      first ++ opening ++
        (passage.marked ++ closing ++ withMarks opening closing ⟨passage.after, rest⟩) := by
  simp [withMarks]

theorem plain_cons (first : List Char) (passage : Passage) (rest : List Passage) :
    plain ⟨first, passage :: rest⟩ =
      first ++ passage.marked ++ plain ⟨passage.after, rest⟩ := by
  simp [plain]

theorem plain_sublist (opening closing : List Char) (text : MarkedText) :
    text.plain.Sublist (text.withMarks opening closing) := by
  obtain ⟨first, passages⟩ := text
  induction passages generalizing first with
  | nil => exact List.Sublist.refl _
  | cons passage rest inductionHypothesis =>
      rw [plain_cons, withMarks_cons]
      have passageKept : (passage.marked ++ plain ⟨passage.after, rest⟩).Sublist
          (passage.marked ++ closing ++ withMarks opening closing ⟨passage.after, rest⟩) := by
        rw [List.append_assoc]
        exact ((inductionHypothesis passage.after).trans
          (List.sublist_append_right closing _)).append_left passage.marked
      rw [List.append_assoc, List.append_assoc]
      exact (passageKept.trans (List.sublist_append_right opening _)).append_left first

/-- However characters are measured, each pair of marks adds the measure of both marks. -/
theorem measure_withMarks (measure : List Char → Nat)
    (additive : ∀ left right, measure (left ++ right) = measure left + measure right)
    (opening closing : List Char) (text : MarkedText) :
    measure (text.withMarks opening closing) =
      measure text.plain + text.passages.length * (measure opening + measure closing) := by
  obtain ⟨first, passages⟩ := text
  induction passages generalizing first with
  | nil => simp [withMarks, plain]
  | cons passage rest inductionHypothesis =>
      simp only [withMarks_cons, plain_cons, additive, inductionHypothesis, List.length_cons,
        Nat.succ_mul]
      omega

end MarkedText

/-! ## Searches -/

theorem cutAtFirst?_append {c : Char} {before : List Char} (absent : c ∉ before)
    (inner after : List Char) :
    cutAtFirst? (c :: inner) (before ++ (c :: inner) ++ after) = some (before, after) := by
  induction before with
  | nil =>
      rw [List.nil_append, List.cons_append, cutAtFirst?, ← List.cons_append, stripStart?_append]
  | cons d before inductionHypothesis =>
      rw [List.mem_cons, not_or] at absent
      rw [List.cons_append, List.cons_append, cutAtFirst?, stripStart?, if_neg absent.1,
        inductionHypothesis absent.2]
      rfl

theorem cutAtFirst?_eq_none {c : Char} {text : List Char} (absent : c ∉ text)
    (inner : List Char) : cutAtFirst? (c :: inner) text = none := by
  cases cut : cutAtFirst? (c :: inner) text with
  | none => rfl
  | some parts =>
      rw [eq_append_of_cutAtFirst? cut] at absent
      simp at absent

/-! ## Removal of marks -/

variable {opening closing : List Char}

theorem cleanChars_of_firstMarked?_eq_none {text : List Char}
    (none : firstMarked? opening closing text = none) :
    cleanChars opening closing text = text := by
  rw [cleanChars]
  split
  · rfl
  · split
    · rfl
    · rename_i found
      rw [none] at found
      cases found

theorem cleanChars_of_firstMarked?_eq_some (openingFilled : opening ≠ [])
    (closingFilled : closing ≠ []) {text before marked after : List Char}
    (found : firstMarked? opening closing text = some (before, marked, after)) :
    cleanChars opening closing text = before ++ marked ++ cleanChars opening closing after := by
  rw [cleanChars, dif_neg (not_or.2 ⟨openingFilled, closingFilled⟩)]
  split
  · rename_i none
    rw [none] at found
    cases found
  · rename_i same
    rw [found] at same
    cases same
    rfl

/-- One pair of marks is removed if neither mark can begin before its place. -/
theorem cleanChars_pair (openingFilled : opening ≠ []) (closingFilled : closing ≠ [])
    {before marked : List Char} (beforeClear : ∀ c ∈ opening.head?, c ∉ before)
    (markedClear : ∀ c ∈ closing.head?, c ∉ marked) (after : List Char) :
    cleanChars opening closing (before ++ opening ++ (marked ++ closing ++ after)) =
      before ++ marked ++ cleanChars opening closing after := by
  apply cleanChars_of_firstMarked?_eq_some openingFilled closingFilled
  obtain ⟨c, opening, rfl⟩ := List.exists_cons_of_ne_nil openingFilled
  obtain ⟨d, closing, rfl⟩ := List.exists_cons_of_ne_nil closingFilled
  rw [firstMarked?, cutAtFirst?_append (beforeClear c rfl), Option.bind_some,
    cutAtFirst?_append (markedClear d rfl)]
  rfl

theorem cleanChars_eq_self (openingFilled : opening ≠ []) {text : List Char}
    (clear : ∀ c ∈ opening.head?, c ∉ text) : cleanChars opening closing text = text := by
  apply cleanChars_of_firstMarked?_eq_none
  obtain ⟨c, opening, rfl⟩ := List.exists_cons_of_ne_nil openingFilled
  rw [firstMarked?, cutAtFirst?_eq_none (clear c rfl), Option.bind_none]

/-- The removal of marks undoes their insertion. -/
theorem cleanChars_withMarks (openingFilled : opening ≠ []) (closingFilled : closing ≠ [])
    {text : MarkedText} (clear : text.IsClear opening closing) :
    cleanChars opening closing (text.withMarks opening closing) = text.plain := by
  obtain ⟨first, passages⟩ := text
  induction passages generalizing first with
  | nil =>
      rw [MarkedText.withMarks, MarkedText.plain, List.flatMap_nil, List.flatMap_nil,
        List.append_nil]
      exact cleanChars_eq_self openingFilled clear.first
  | cons passage rest inductionHypothesis =>
      have restClear : MarkedText.IsClear opening closing ⟨passage.after, rest⟩ :=
        ⟨clear.after passage List.mem_cons_self,
          fun other member => clear.marked other (List.mem_cons_of_mem _ member),
          fun other member => clear.after other (List.mem_cons_of_mem _ member)⟩
      rw [MarkedText.withMarks_cons, MarkedText.plain_cons,
        cleanChars_pair openingFilled closingFilled clear.first
          (clear.marked passage List.mem_cons_self),
        inductionHypothesis passage.after restClear]

/-- Every text is some text with marks, and the removal of marks leaves its plain form. -/
theorem exists_markedText (opening closing text : List Char) :
    ∃ source : MarkedText, source.withMarks opening closing = text ∧
      source.plain = cleanChars opening closing text := by
  have unmarked (text : List Char) : ∃ source : MarkedText,
      source.withMarks opening closing = text ∧ source.plain = text :=
    ⟨⟨text, []⟩, List.append_nil text, List.append_nil text⟩
  induction text using cleanChars.induct opening closing with
  | case1 text emptyMark =>
      rw [cleanChars, dif_pos emptyMark]
      exact unmarked text
  | case2 text _ notFound =>
      rw [cleanChars_of_firstMarked?_eq_none notFound]
      exact unmarked text
  | case3 text filled before marked after found _ inductionHypothesis =>
      obtain ⟨⟨first, passages⟩, afterMarked, afterPlain⟩ := inductionHypothesis
      obtain ⟨openingFilled, closingFilled⟩ := not_or.1 filled
      refine ⟨⟨before, ⟨marked, first⟩ :: passages⟩, ?_, ?_⟩
      · rw [MarkedText.withMarks_cons, afterMarked, eq_append_of_firstMarked? found]
      · rw [MarkedText.plain_cons, afterPlain,
          cleanChars_of_firstMarked?_eq_some openingFilled closingFilled found]

/-- Whether a closing mark stands somewhere behind an opening one. -/
def HasPair (opening closing text : List Char) : Prop :=
  ∃ before marked after, text = before ++ opening ++ (marked ++ closing ++ after)

/-- **The removal of marks undoes their insertion and loses nothing else.** The passages of a text
may be any number and the marks may share characters, as long as no mark can begin before its
place. Whatever a text is, its characters without marks stand in their order, all that is lost is
the size of some pairs of marks, in characters and in bytes, and a text without a complete pair
stays as it is. -/
theorem cleanMarks_withMarks (opening closing : String) :
    (opening ≠ "" → closing ≠ "" →
      ∀ source : MarkedText, source.IsClear opening.toList closing.toList →
        cleanMarks opening closing
            (String.ofList (source.withMarks opening.toList closing.toList)) =
          String.ofList source.plain) ∧
    ∀ text : String,
      (cleanMarks opening closing text).toList.Sublist text.toList ∧
      (∃ pairs,
        text.length = (cleanMarks opening closing text).length +
          pairs * (opening.length + closing.length) ∧
        text.utf8ByteSize = (cleanMarks opening closing text).utf8ByteSize +
          pairs * (opening.utf8ByteSize + closing.utf8ByteSize)) ∧
      (¬ HasPair opening.toList closing.toList text.toList →
        cleanMarks opening closing text = text) := by
  constructor
  · intro openingFilled closingFilled source clear
    rw [cleanMarks, String.toList_ofList, cleanChars_withMarks
      (mt String.toList_eq_nil_iff.1 openingFilled) (mt String.toList_eq_nil_iff.1 closingFilled)
      clear]
  · intro text
    obtain ⟨source, marked, plain⟩ := exists_markedText opening.toList closing.toList text.toList
    have cleaned : cleanMarks opening closing text = String.ofList source.plain := by
      rw [cleanMarks, plain]
    have original : text =
        String.ofList (source.withMarks opening.toList closing.toList) := by
      rw [marked, String.ofList_toList]
    refine ⟨?_, ⟨source.passages.length, ?_, ?_⟩, ?_⟩
    · rw [cleaned, String.toList_ofList, ← marked]
      exact MarkedText.plain_sublist _ _ source
    · have size := MarkedText.measure_withMarks List.length
        (fun _ _ => List.length_append) opening.toList closing.toList source
      rw [cleaned, original]
      simpa only [String.length_ofList, String.length_toList] using size
    · have size := MarkedText.measure_withMarks
        (fun chars => (String.ofList chars).utf8ByteSize) (fun left right => by simp)
        opening.toList closing.toList source
      rw [cleaned, original]
      simpa using size
    · intro noPair
      obtain ⟨first, passages⟩ := source
      cases passages with
      | nil =>
          rw [cleaned, original]
          rfl
      | cons passage rest =>
          rw [← marked, MarkedText.withMarks_cons] at noPair
          exact absurd ⟨_, _, _, rfl⟩ noPair

/-! ## Observations of species -/

namespace Observations

/-- A name with its two words marked, and what stands behind them. -/
def markedName : MarkedText where
  first := []
  passages := [⟨"Puma".toList, " concolor ".toList⟩, ⟨"L.".toList, " 1771".toList⟩]

/-- The closing mark is a part of the opening one. -/
theorem cleanMarks_withMarks_nested :
    markedName.IsClear "<em>".toList "<".toList ∧
      cleanMarks "<em>" "<" "<em>Puma< concolor <em>L.< 1771" = "Puma concolor L. 1771" ∧
      ¬ HasPair "<em>".toList "<".toList "<em>Puma".toList ∧
      cleanMarks "<em>" "<" "<em>Puma" = "<em>Puma" := by
  have clear : markedName.IsClear "<em>".toList "<".toList := by
    constructor
    · simp [markedName]
    · simp [markedName]
    · simp [markedName]
  have unclosed : ¬ HasPair "<em>".toList "<".toList "<em>Puma".toList := by
    rintro ⟨before, marked, after, same⟩
    have brackets := congrArg (List.count '<') same
    simp [List.count_append] at brackets
    omega
  refine ⟨clear, ?_, unclosed, ?_⟩
  · have undone := (cleanMarks_withMarks "<em>" "<").1 (by decide) (by decide) markedName clear
    exact undone
  · exact ((cleanMarks_withMarks "<em>" "<").2 "<em>Puma").2.2 unclosed

end Observations

end FacetedSearch
