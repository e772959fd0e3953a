import FacetedSearch.Settings.Basic
import FacetedSearch.Text.Splitting

/-!
Contract: texts with marked matches.

Owns:
- `firstSnippet?`, the snippet that stands for a field;
- `cleanMarks`, which removes every complete pair of marks and keeps what is between them;
- `highlightList`, which puts snippets in the places of the texts that they mark.

Does not own: how engines choose snippets.
-/

namespace FacetedSearch

open Text

/-- The first snippet that is not empty. -/
def firstSnippet? (snippets : List String) : Option String :=
  snippets.find? fun snippet => snippet != ""

/-- The parts of a text before, inside and after its first complete pair of marks. -/
def firstMarked? (opening closing text : List Char) :
    Option (List Char × List Char × List Char) :=
  (cutAtFirst? opening text).bind fun atOpening =>
    (cutAtFirst? closing atOpening.2).map fun atClosing =>
      (atOpening.1, atClosing.1, atClosing.2)

theorem eq_append_of_firstMarked? {opening closing text before marked after : List Char}
    (found : firstMarked? opening closing text = some (before, marked, after)) :
    text = before ++ opening ++ (marked ++ closing ++ after) := by
  rw [firstMarked?, Option.bind_eq_some_iff] at found
  obtain ⟨atOpening, cutOpening, found⟩ := found
  rw [Option.map_eq_some_iff] at found
  obtain ⟨atClosing, cutClosing, same⟩ := found
  injection same with beforeEq same
  injection same with markedEq afterEq
  subst beforeEq markedEq afterEq
  rw [eq_append_of_cutAtFirst? cutOpening, ← eq_append_of_cutAtFirst? cutClosing]

theorem length_lt_of_firstMarked? {opening closing text before marked after : List Char}
    (filled : opening ≠ [])
    (found : firstMarked? opening closing text = some (before, marked, after)) :
    after.length < text.length := by
  have parts := congrArg List.length (eq_append_of_firstMarked? found)
  have openingFilled := List.length_pos_iff.2 filled
  simp only [List.length_append] at parts
  omega

/-- The text without complete pairs of marks. Empty marks mark nothing. -/
def cleanChars (opening closing text : List Char) : List Char :=
  if emptyMark : opening = [] ∨ closing = [] then text
  else
    match found : firstMarked? opening closing text with
    | none => text
    | some (before, marked, after) =>
        have := length_lt_of_firstMarked? (not_or.1 emptyMark).1 found
        before ++ marked ++ cleanChars opening closing after
termination_by text.length

/-- The text without complete pairs of marks. -/
def cleanMarks (opening closing text : String) : String :=
  String.ofList (cleanChars opening.toList closing.toList text.toList)

/-- Some texts with the first one that equals `plain` replaced. -/
def replaceFirst (plain replacement : String) : List String → List String
  | [] => []
  | text :: rest =>
      if text = plain then replacement :: rest else text :: replaceFirst plain replacement rest

/-- Some texts with each snippet in the place of the first text that it marks. -/
def highlightList (tags : HighlightSettings) (snippets texts : List String) : List String :=
  snippets.foldl (fun texts snippet =>
    replaceFirst (cleanMarks tags.openingTag tags.closingTag snippet) snippet texts) texts

end FacetedSearch
