import FacetedSearch.Response.Highlight
import Mathlib.Data.List.Basic
import Mathlib.Data.List.Induction

/-!
Contract: lists of texts with snippets in the places of what they mark.

Owns:
- `HighlightSettings.clean`, a text without marks, and `HighlightSettings.Stable`, snippets that
  have no marks left once they are cleaned;
- `StandsFor`, a text that may be shown in the place of another one;
- `Highlighted`, what a list has in common with one in which some snippets were put;
- `Highlighted.concat` and `highlighted_highlightList`: one more snippet keeps this, so all do;
- `highlightList_keeps_texts`: a list says with snippets what it said without.

A snippet is looked for among texts and earlier snippets alike. For stable snippets this makes no
difference: an earlier snippet that equals a clean text stands for that text.

Does not own: what the removal of marks does to a text.
-/

namespace FacetedSearch

/-! ## Snippets -/

namespace HighlightSettings

/-- A text without marks. -/
def clean (tags : HighlightSettings) (text : String) : String :=
  cleanMarks tags.openingTag tags.closingTag text

/-- Whether no snippet has marks left once it is cleaned. -/
def Stable (tags : HighlightSettings) (snippets : List String) : Prop :=
  ∀ snippet ∈ snippets, tags.clean (tags.clean snippet) = tags.clean snippet

end HighlightSettings

variable {tags : HighlightSettings} {snippets : List String}

/-- Whether a text is the original one, or a snippet that is the original one but for its marks. -/
def StandsFor (tags : HighlightSettings) (snippets : List String) (original shown : String) :
    Prop :=
  shown = original ∨ shown ∈ snippets ∧ tags.clean shown = original

namespace StandsFor

variable {original shown : String}

theorem mono {more : List String} (stands : StandsFor tags snippets original shown)
    (among : ∀ snippet ∈ snippets, snippet ∈ more) : StandsFor tags more original shown :=
  stands.imp_right fun ⟨isSnippet, marks⟩ => ⟨among shown isSnippet, marks⟩

/-- A clean text stands for itself only. -/
theorem original_eq (stands : StandsFor tags snippets original shown)
    (clean : tags.clean shown = shown) : original = shown := by
  rcases stands with same | ⟨-, marks⟩
  · exact same.symm
  · exact marks.symm.trans clean

end StandsFor

/-! ## Lists -/

theorem idxOf_le_of_getElem? {α : Type} [BEq α] [LawfulBEq α] {list : List α} {element : α}
    {index : Nat} (found : list[index]? = some element) : list.idxOf element ≤ index := by
  by_contra before
  obtain ⟨below, here⟩ := List.getElem?_eq_some_iff.1 found
  have notHere := List.not_of_lt_findIdx (Nat.lt_of_not_le before)
  simp [here] at notHere

/-- The first text that equals another one is replaced in its place. -/
theorem replaceFirst_eq_set (plain replacement : String) (texts : List String) :
    replaceFirst plain replacement texts = texts.set (texts.idxOf plain) replacement := by
  induction texts with
  | nil => rfl
  | cons text rest inductionHypothesis =>
      by_cases same : text = plain
      · simp [replaceFirst, same]
      · rw [replaceFirst, if_neg same, inductionHypothesis, List.idxOf_cons_ne rest same,
          List.set_cons_succ]

theorem highlightList_concat (tags : HighlightSettings) (snippets texts : List String)
    (snippet : String) :
    highlightList tags (snippets ++ [snippet]) texts =
      replaceFirst (tags.clean snippet) snippet (highlightList tags snippets texts) :=
  List.foldl_concat ..

/-- What a list has in common with one in which some snippets were put: each text stands for the
original one in its place, and the first place of a text that some snippet marks shows a snippet
that marks it. -/
structure Highlighted (tags : HighlightSettings) (snippets originals shown : List String) :
    Prop where
  length : shown.length = originals.length
  stands : ∀ (index : Nat) (original : String), originals[index]? = some original →
    ∃ text, shown[index]? = some text ∧ StandsFor tags snippets original text
  marked : ∀ snippet ∈ snippets, tags.clean snippet ∈ originals →
    ∃ other ∈ snippets, shown[originals.idxOf (tags.clean snippet)]? = some other ∧
      tags.clean other = tags.clean snippet

namespace Highlighted

variable {originals shown : List String}

/-- A clean text that is shown is the original one in its place. -/
theorem originals_getElem? (highlighted : Highlighted tags snippets originals shown)
    {index : Nat} {text : String} (found : shown[index]? = some text)
    (clean : tags.clean text = text) : originals[index]? = some text := by
  have below : index < originals.length :=
    highlighted.length ▸ (List.getElem?_eq_some_iff.1 found).1
  obtain ⟨other, isOther, stands⟩ :=
    highlighted.stands index _ (List.getElem?_eq_getElem below)
  obtain rfl := Option.some.inj (isOther.symm.trans found)
  rw [List.getElem?_eq_getElem below, stands.original_eq clean]

/-- The first place of a clean text is that of the original, unless a snippet stands there. -/
theorem idxOf_eq (highlighted : Highlighted tags snippets originals shown) {plain : String}
    (clean : tags.clean plain = plain)
    (here : shown[originals.idxOf plain]? = some plain) :
    shown.idxOf plain = originals.idxOf plain := by
  have notAfter := idxOf_le_of_getElem? here
  have isShown : plain ∈ shown := List.mem_of_getElem? here
  have isOriginal := highlighted.originals_getElem? (List.getElem?_idxOf isShown) clean
  exact Nat.le_antisymm notAfter (idxOf_le_of_getElem? isOriginal)

/-- Where a stable snippet is put, the original text is the one that it marks. -/
theorem eq_clean_of_place (highlighted : Highlighted tags snippets originals shown)
    {snippet : String} (stable : tags.clean (tags.clean snippet) = tags.clean snippet)
    {original : String}
    (found : originals[shown.idxOf (tags.clean snippet)]? = some original) :
    shown.idxOf (tags.clean snippet) < shown.length ∧ original = tags.clean snippet := by
  have below : shown.idxOf (tags.clean snippet) < shown.length :=
    highlighted.length ▸ (List.getElem?_eq_some_iff.1 found).1
  have isShown : shown[shown.idxOf (tags.clean snippet)]? = some (tags.clean snippet) :=
    List.getElem?_idxOf (List.idxOf_lt_length_iff.1 below)
  have isPlain := highlighted.originals_getElem? isShown stable
  exact ⟨below, Option.some.inj (found.symm.trans isPlain)⟩

theorem stands_set (highlighted : Highlighted tags snippets originals shown)
    {snippet : String} (stable : tags.clean (tags.clean snippet) = tags.clean snippet)
    (index : Nat) (original : String) (found : originals[index]? = some original) :
    ∃ text, (shown.set (shown.idxOf (tags.clean snippet)) snippet)[index]? = some text ∧
      StandsFor tags (snippets ++ [snippet]) original text := by
  by_cases here : shown.idxOf (tags.clean snippet) = index
  · subst here
    obtain ⟨below, rfl⟩ := highlighted.eq_clean_of_place stable found
    exact ⟨snippet, List.getElem?_set_self below, .inr ⟨List.mem_concat_self, rfl⟩⟩
  · rw [List.getElem?_set_ne here]
    obtain ⟨text, isShown, stands⟩ := highlighted.stands index original found
    exact ⟨text, isShown, stands.mono fun other => List.mem_append_left _⟩

theorem marked_set (highlighted : Highlighted tags snippets originals shown)
    {snippet : String} (stable : tags.clean (tags.clean snippet) = tags.clean snippet)
    {marking : String} (member : marking ∈ snippets ++ [snippet])
    (isOriginal : tags.clean marking ∈ originals) :
    ∃ other ∈ snippets ++ [snippet],
      (shown.set (shown.idxOf (tags.clean snippet)) snippet)[originals.idxOf
          (tags.clean marking)]? = some other ∧
        tags.clean other = tags.clean marking := by
  have found := List.getElem?_idxOf isOriginal
  by_cases here : shown.idxOf (tags.clean snippet) = originals.idxOf (tags.clean marking)
  · rw [← here] at found ⊢
    obtain ⟨below, sameText⟩ := highlighted.eq_clean_of_place stable found
    exact ⟨snippet, List.mem_concat_self, List.getElem?_set_self below, sameText.symm⟩
  · rw [List.getElem?_set_ne here]
    rcases List.mem_append.1 member with earlier | isLast
    · obtain ⟨other, isSnippet, isShown, marks⟩ := highlighted.marked marking earlier isOriginal
      exact ⟨other, List.mem_append_left _ isSnippet, isShown, marks⟩
    · -- The snippet is put elsewhere: an earlier one took the first place of its text.
      obtain rfl := List.mem_singleton.1 isLast
      obtain ⟨text, isShown, rfl | ⟨isSnippet, marks⟩⟩ := highlighted.stands _ _ found
      · exact absurd (highlighted.idxOf_eq stable isShown) here
      · exact ⟨text, List.mem_append_left _ isSnippet, isShown, marks⟩

/-- One more stable snippet keeps what the lists have in common. -/
theorem concat (highlighted : Highlighted tags snippets originals shown) {snippet : String}
    (stable : tags.clean (tags.clean snippet) = tags.clean snippet) :
    Highlighted tags (snippets ++ [snippet]) originals
      (replaceFirst (tags.clean snippet) snippet shown) := by
  rw [replaceFirst_eq_set]
  exact ⟨by rw [List.length_set, highlighted.length], highlighted.stands_set stable,
    fun _ => highlighted.marked_set stable⟩

end Highlighted

theorem highlighted_highlightList (stable : tags.Stable snippets) (texts : List String) :
    Highlighted tags snippets texts (highlightList tags snippets texts) := by
  induction snippets using List.reverseRecOn with
  | nil =>
      refine ⟨rfl, fun index text found => ⟨text, found, .inl rfl⟩, ?_⟩
      exact fun _ member => absurd member List.not_mem_nil
  | append_singleton snippets snippet inductionHypothesis =>
      rw [highlightList_concat]
      have earlier : tags.Stable snippets :=
        fun other member => stable other (List.mem_append_left _ member)
      exact (inductionHypothesis earlier).concat (stable snippet List.mem_concat_self)

/-- **A highlighted list says what it said.** If no snippet has marks left once it is cleaned, then
as many texts are shown as there were. Each is the one that was in its place, or a snippet that is
this text but for its marks. The first place of each text that a snippet marks shows a snippet that
marks it. -/
theorem highlightList_keeps_texts (stable : tags.Stable snippets) (texts : List String) :
    (highlightList tags snippets texts).length = texts.length ∧
    (∀ (index : Nat) (text : String), texts[index]? = some text →
      ∃ shown, (highlightList tags snippets texts)[index]? = some shown ∧
        (shown = text ∨ shown ∈ snippets ∧ tags.clean shown = text)) ∧
    ∀ snippet ∈ snippets, tags.clean snippet ∈ texts →
      ∃ shown ∈ snippets,
        (highlightList tags snippets texts)[texts.idxOf (tags.clean snippet)]? = some shown ∧
          tags.clean shown = tags.clean snippet := by
  have highlighted := highlighted_highlightList stable texts
  exact ⟨highlighted.length, highlighted.stands, highlighted.marked⟩

/-! ## Observations of species -/

namespace Observations

/-- A text that stands twice in a list, and one that stands once. -/
def lineage : List String :=
  ["Felidae", "Puma concolor", "Puma", "Puma concolor"]

/-- Two snippets of one text, one without marks, and one of a text that is not there. -/
def lineageSnippets : List String :=
  ["[Puma] concolor", "Puma", "Puma [concolor]", "[Lynx]"]

def brackets : HighlightSettings where
  openingTag := "["
  closingTag := "]"

theorem highlightList_keeps_texts_lineage :
    brackets.Stable lineageSnippets ∧
      (highlightList brackets lineageSnippets lineage).length = 4 ∧
      ∃ shown ∈ lineageSnippets,
        (highlightList brackets lineageSnippets lineage)[1]? = some shown ∧
          brackets.clean shown = "Puma concolor" := by
  have stable : brackets.Stable lineageSnippets := by
    unfold HighlightSettings.Stable
    decide +kernel
  obtain ⟨length, -, marked⟩ := highlightList_keeps_texts stable lineage
  refine ⟨stable, length, ?_⟩
  have plain : brackets.clean "Puma [concolor]" = "Puma concolor" := by decide +kernel
  have shown := marked "Puma [concolor]" (by decide) (by decide +kernel)
  rw [plain] at shown
  exact shown

end Observations

end FacetedSearch
