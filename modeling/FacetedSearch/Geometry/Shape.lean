import FacetedSearch.Floating.Basic

/-!
Contract: shapes on a plane.

Owns: `Coordinate`, `Ring` and `Shape`, with equality of coordinates by value, under which both
zeros are equal and not-a-number differs from itself.
Does not own: which shapes filters support.
-/

namespace FacetedSearch.Geometry

/-- A point of the plane. -/
structure Coordinate where
  x : Double
  y : Double
deriving DecidableEq, Repr

/-- Whether two coordinates are equal by value. -/
def Coordinate.equal (left right : Coordinate) : Bool :=
  left.x.equal right.x && left.y.equal right.y

/-- A line through some coordinates; as a part of a polygon it ends where it begins. -/
abbrev Ring := List Coordinate

/-- A shell, if there is one, and holes. -/
abbrev Polygon := List Ring

/-- A shape. -/
inductive Shape where
  /-- A point; the empty point has no coordinate. -/
  | point (coordinate : Option Coordinate)
  | lineString (line : Ring)
  | polygon (polygon : Polygon)
  | multiPoint (points : List Coordinate)
  | multiLineString (lines : List Ring)
  | multiPolygon (polygons : List Polygon)
  | collection (members : List Shape)

namespace Ring

/-- Whether a line ends where it begins, or has no coordinate. -/
def isClosed (ring : Ring) : Bool :=
  match ring.head?, ring.getLast? with
  | some first, some last => first.equal last
  | _, _ => true

end Ring

end FacetedSearch.Geometry
