import FacetedSearch.Geometry.Reading
import FacetedSearch.Geometry.Writing
import FacetedSearch.SearchError
import FacetedSearch.Text.Blank
import FacetedSearch.Text.Splitting

/-!
Contract: the normal form of spatial filters.

Owns:
- `dropRepeats`, which drops each coordinate that equals its predecessor;
- the conditions on rings: a polygon's rings are closed as written and keep four coordinates once
  repeats are dropped, a linear ring is closed and has four coordinates;
- `normalForm`, the text of a filter's shape after these checks.

Points, linear rings, polygons and several polygons are supported. Repeats are dropped from
polygons only.

Does not own: the reading and the writing of shapes.
-/

namespace FacetedSearch.Geometry

open FacetedSearch.Text

/-- The coordinates after `previous` that differ from their predecessors. -/
def dropRepeatsAfter (previous : Coordinate) : List Coordinate → List Coordinate
  | [] => []
  | coordinate :: rest =>
      if previous.equal coordinate then dropRepeatsAfter previous rest
      else coordinate :: dropRepeatsAfter coordinate rest

/-- The coordinates that differ from their predecessors; the first one is always kept. -/
def dropRepeats : List Coordinate → List Coordinate
  | [] => []
  | coordinate :: rest => coordinate :: dropRepeatsAfter coordinate rest

/-- The number of coordinates that a closed ring needs. -/
def leastRingSize : Nat := 4

/-- Whether a ring has coordinates and ends where it begins. -/
def isClosedAsWritten (ring : Ring) : Bool :=
  !ring.isEmpty && ring.isClosed

/-- A ring without repeats. -/
def normalRing (ring : Ring) : Except SearchError Ring :=
  let kept := dropRepeats ring
  if kept.length < leastRingSize then .error (.shape .collapsedPolygonRing) else .ok kept

/-- A polygon with rings without repeats. A polygon without rings lacks its shell. -/
def normalPolygon (polygon : Polygon) : Except SearchError Polygon :=
  match polygon with
  | [] => .error (.shape .collapsedPolygonRing)
  | rings => rings.mapM normalRing

/-- The shell and the holes of polygons that are closed as written. -/
def closedPolygons (polygons : List Polygon) : Except SearchError Unit :=
  if polygons.all fun rings => rings.all isClosedAsWritten then .ok ()
  else .error (.shape .openPolygonRing)

def unsupported (kind : String) : Except SearchError (List Char) :=
  .error (.shape (.unsupportedKind kind))

/-- The normal form of a shape that was read. -/
def normalShape : Shape → Except SearchError (List Char)
  | .point (some coordinate) => .ok (pointChars coordinate)
  | .point none => unsupported "MultiPoint"
  | .lineString _ => unsupported "LineString"
  | .multiPoint _ => unsupported "MultiPoint"
  | .multiLineString _ => unsupported "MultiLineString"
  | .collection _ => unsupported "GeometryCollection"
  | .polygon polygon =>
      (closedPolygons [polygon]).bind fun _ => (normalPolygon polygon).map polygonChars
  | .multiPolygon polygons =>
      (closedPolygons polygons).bind fun _ => (polygons.mapM normalPolygon).map multiPolygonChars

def linearRingKeyword : List Char :=
  "LINEARRING".toList

/-- What follows the keyword of linear rings, in any case, at the start of a text. -/
def afterLinearRing? (text : List Char) : Option (List Char) :=
  if equalIgnoringAsciiCase (text.take linearRingKeyword.length) linearRingKeyword then
    some (text.drop linearRingKeyword.length)
  else none

/-- The normal form of a linear ring, given what follows its keyword. -/
def normalLinearRing (rest : List Char) : Except SearchError (List Char) :=
  match readShape? ("LINESTRING".toList ++ rest) with
  | some (.lineString ring) =>
      if ring.length < leastRingSize || !ring.isClosed then .error (.shape .openLinearRing)
      else .ok (linearRingChars ring)
  | _ => .error (.shape .unreadableRing)

/-- The normal form of a spatial filter. Blanks around its text are ignored. -/
def normalForm (text : String) : Except SearchError String :=
  let trimmed := trimBlanks text.toList
  let normal :=
    match afterLinearRing? trimmed with
    | some rest => normalLinearRing rest
    | none =>
        match readShape? trimmed with
        | some shape => normalShape shape
        | none => .error (.shape (.unreadable (String.ofList trimmed)))
  normal.map String.ofList

end FacetedSearch.Geometry
