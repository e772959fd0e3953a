import FacetedSearch.Geometry.Shape
import FacetedSearch.Geometry.Token
import FacetedSearch.Text.Case

/-!
Contract: shapes from well-known texts.

Owns: the grammar of shapes over tokens, and `readShape?`. A shape is a keyword, the dimensions of
its coordinates, and `EMPTY` or a body in parentheses. Dimensions beyond the plane are read and
dropped, and what follows the first shape of a text is ignored.

Lists and nested shapes are read within a bound that the number of tokens gives, since each
element and each level takes a token.

Does not own: conditions on rings.
-/

namespace FacetedSearch.Geometry

open FacetedSearch.Text

abbrev Reader (α : Type) :=
  List Token → Option (α × List Token)

/-- The dimensions of coordinates. -/
inductive Dimensions where
  | plane
  /-- A height. -/
  | height
  /-- A measure. -/
  | measure
  | heightAndMeasure
deriving DecidableEq, Repr

namespace Dimensions

/-- The number of numbers after the first two of a coordinate. -/
def further : Dimensions → Nat
  | .plane => 0
  | .height | .measure => 1
  | .heightAndMeasure => 2

/-- Dimensions beyond the plane with their words. -/
def words : List (List Char × Dimensions) :=
  [(['Z'], .height), (['M'], .measure), (['Z', 'M'], .heightAndMeasure)]

end Dimensions

/-- Whether the characters are a keyword, in any case. -/
def isKeyword (keyword : String) (characters : List Char) : Bool :=
  equalIgnoringAsciiCase keyword.toList characters

def skipNumbers? : Nat → List Token → Option (List Token)
  | 0, tokens => some tokens
  | count + 1, .number _ :: rest => skipNumbers? count rest
  | _ + 1, _ => none

def coordinate (dimensions : Dimensions) : Reader Coordinate
  | .number x :: .number y :: rest =>
      (skipNumbers? dimensions.further rest).map fun after => (⟨x, y⟩, after)
  | _ => none

/-- Reads at most `bound` elements with commas between them. -/
def elementsWithin {α : Type} (element : Reader α) : Nat → Reader (List α)
  | 0, _ => none
  | bound + 1, tokens =>
      match element tokens with
      | none => none
      | some (first, .comma :: rest) =>
          (elementsWithin element bound rest).map fun read => (first :: read.1, read.2)
      | some (first, rest) => some ([first], rest)

def elements {α : Type} (element : Reader α) : Reader (List α) := fun tokens =>
  elementsWithin element tokens.length tokens

/-- Reads `EMPTY` or a body in parentheses. -/
def enclosed {α : Type} (empty : α) (body : Reader α) : Reader α
  | .word characters :: rest => if isKeyword "EMPTY" characters then some (empty, rest) else none
  | .openParenthesis :: rest =>
      match body rest with
      | some (value, .closeParenthesis :: after) => some (value, after)
      | _ => none
  | _ => none

/-- Reads a body that may stand in parentheses. -/
def optionallyEnclosed {α : Type} (body : Reader α) : Reader α
  | .openParenthesis :: rest =>
      match body rest with
      | some (value, .closeParenthesis :: after) => some (value, after)
      | _ => none
  | tokens => body tokens

def line (dimensions : Dimensions) : Reader Ring :=
  enclosed [] (elements (coordinate dimensions))

/-- Reads several lines, or the rings of a polygon. -/
def lines (dimensions : Dimensions) : Reader (List Ring) :=
  enclosed [] (elements (line dimensions))

/-- The kinds of shapes. -/
inductive Kind where
  | point
  | lineString
  | polygon
  | multiPoint
  | multiLineString
  | multiPolygon
  | collection
deriving DecidableEq, Repr

def keywords : List (String × Kind) :=
  [("POINT", .point), ("LINESTRING", .lineString), ("POLYGON", .polygon),
   ("MULTIPOINT", .multiPoint), ("MULTILINESTRING", .multiLineString),
   ("MULTIPOLYGON", .multiPolygon), ("GEOMETRYCOLLECTION", .collection)]

/-- The kind of a keyword. Line strings have a second one, which takes no dimensions at its end. -/
def kindOf? (characters : List Char) : Option Kind :=
  if isKeyword "LINEARRING" characters then some .lineString
  else (keywords.find? fun entry => isKeyword entry.1 characters).map Prod.snd

/-- The dimensions that a word names, in any case. -/
def dimensionsOf? (characters : List Char) : Option Dimensions :=
  (Dimensions.words.find? fun entry => equalIgnoringAsciiCase entry.1 characters).map Prod.snd

/-- The kind and the dimensions of a keyword with a word for dimensions at its end. -/
def extendedKindOf? (characters : List Char) : Option (Kind × Dimensions) :=
  Dimensions.words.findSome? fun entry =>
    (keywords.find? fun keyword =>
      equalIgnoringAsciiCase (keyword.1.toList ++ entry.1) characters).map
        fun keyword => (keyword.2, entry.2)

/-- Reads the dimensions after a keyword that does not name them. -/
def dimensions : Reader Dimensions
  | [] => none
  | .malformed :: _ => none
  | .word characters :: rest =>
      match dimensionsOf? characters with
      | some dimensions => some (dimensions, rest)
      | none =>
          if isKeyword "EMPTY" characters then some (.plane, .word characters :: rest) else none
  | tokens => some (.plane, tokens)

/-- Reads the keyword and the dimensions of a shape. -/
def header : Reader (Kind × Dimensions)
  | .word characters :: rest =>
      match kindOf? characters with
      | some kind => (dimensions rest).map fun read => ((kind, read.1), read.2)
      | none => (extendedKindOf? characters).map fun found => (found, rest)
  | _ => none

/-- What a reader reads, changed. -/
def Reader.map {α β : Type} (change : α → β) (reader : Reader α) : Reader β := fun tokens =>
  (reader tokens).map fun read => (change read.1, read.2)

/-- Reads the body of a shape, given a reader of shapes inside it. -/
def body (inner : Reader Shape) (dimensions : Dimensions) : Kind → Reader Shape
  | .point => (enclosed none ((coordinate dimensions).map some)).map .point
  | .lineString => (line dimensions).map .lineString
  | .polygon => (lines dimensions).map .polygon
  | .multiPoint =>
      (enclosed [] (elements (optionallyEnclosed (coordinate dimensions)))).map .multiPoint
  | .multiLineString => (lines dimensions).map .multiLineString
  | .multiPolygon => (enclosed [] (elements (lines dimensions))).map .multiPolygon
  | .collection => (enclosed [] (elements inner)).map .collection

/-- Reads a shape with at most `bound` levels. -/
def shapeWithin : Nat → Reader Shape
  | 0, _ => none
  | bound + 1, tokens =>
      match header tokens with
      | none => none
      | some ((kind, dimensions), rest) => body (shapeWithin bound) dimensions kind rest

/-- The first shape of a text. -/
def readShape? (text : List Char) : Option Shape :=
  let tokens := tokens text
  (shapeWithin tokens.length tokens).map Prod.fst

end FacetedSearch.Geometry
