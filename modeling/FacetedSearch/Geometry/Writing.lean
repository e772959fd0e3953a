import FacetedSearch.Floating.Layout
import FacetedSearch.Geometry.Shape

/-!
Contract: the well-known texts of the shapes that filters use.

Owns: the texts of coordinates, rings, points, polygons and several polygons, without needless
blanks and with numbers in full.
Does not own: the texts of other shapes.
-/

namespace FacetedSearch.Geometry

def commaSeparated : List (List Char) → List Char
  | [] => []
  | [text] => text
  | text :: rest => text ++ ',' :: commaSeparated rest

def parenthesized (text : List Char) : List Char :=
  '(' :: text ++ [')']

def Coordinate.chars (coordinate : Coordinate) : List Char :=
  Floating.plainLayout.renderChars coordinate.x ++ ' ' ::
    Floating.plainLayout.renderChars coordinate.y

def Ring.chars (ring : Ring) : List Char :=
  parenthesized (commaSeparated (ring.map Coordinate.chars))

def Polygon.chars (polygon : Polygon) : List Char :=
  parenthesized (commaSeparated (polygon.map Ring.chars))

def pointChars (coordinate : Coordinate) : List Char :=
  "POINT".toList ++ parenthesized coordinate.chars

def linearRingChars (ring : Ring) : List Char :=
  "LINEARRING".toList ++ ring.chars

def polygonChars (polygon : Polygon) : List Char :=
  "POLYGON".toList ++ polygon.chars

def multiPolygonChars (polygons : List Polygon) : List Char :=
  if polygons.isEmpty then "MULTIPOLYGON EMPTY".toList
  else "MULTIPOLYGON".toList ++ parenthesized (commaSeparated (polygons.map Polygon.chars))

end FacetedSearch.Geometry
