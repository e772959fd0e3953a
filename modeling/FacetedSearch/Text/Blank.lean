import FacetedSearch.Text.Ranges

/-!
Contract: blank characters and the removal of blanks around a text.

Owns:
- `isBlank`, the Unicode property White_Space, 25 characters;
- `trimBlanks` and `trim`, which drop blanks at both ends and nothing else.

Does not own: the collapsing of blanks inside a text.
-/

namespace FacetedSearch.Text

/-- Characters with the property White_Space. -/
def blankRanges : Ranges :=
  [(0x09, 0x0D), (0x20, 0x20), (0x85, 0x85), (0xA0, 0xA0), (0x1680, 0x1680), (0x2000, 0x200A),
   (0x2028, 0x2029), (0x202F, 0x202F), (0x205F, 0x205F), (0x3000, 0x3000)]

def isBlank (c : Char) : Bool :=
  blankRanges.contains c

def dropTrailingBlanks : List Char → List Char
  | [] => []
  | c :: rest =>
      match dropTrailingBlanks rest with
      | [] => if isBlank c then [] else [c]
      | kept => c :: kept

/-- The text without the blanks at its two ends. -/
def trimBlanks (text : List Char) : List Char :=
  dropTrailingBlanks (text.dropWhile isBlank)

/-- The text without the blanks at its two ends. -/
def trim (text : String) : String :=
  String.ofList (trimBlanks text.toList)

end FacetedSearch.Text
