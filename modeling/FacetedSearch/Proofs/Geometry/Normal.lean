import FacetedSearch.Geometry.Normal
import FacetedSearch.Proofs.Floating.Plain
import FacetedSearch.Proofs.Outcome
import Mathlib.Data.List.Destutter

/-!
Contract: shapes that have passed the checks of filters.

Owns:
- `dropRepeats_dropRepeats` and `isClosedAsWritten_dropRepeats`: dropping repeats once is enough and
  leaves closed rings closed;
- `FilterShape`, the supported shapes, with their texts, and `FilterShape.IsNormal`, what the checks
  establish;
- `FilterShape.exists_of_normalForm`: each normal form is the text of a normal shape;
- `isShapeText_of_normalForm`: the characters of normal forms.

Does not own: the reading of normal forms.
-/

namespace FacetedSearch

namespace Geometry

/-! ## Equality by value -/

theorem Coordinate.equal_comm (left right : Coordinate) :
    left.equal right = right.equal left := by
  rw [equal, equal, left.x.equal_comm, left.y.equal_comm]

theorem Coordinate.equal_trans {left middle right : Coordinate}
    (first : left.equal middle = true) (second : middle.equal right = true) :
    left.equal right = true := by
  simp only [equal, Bool.and_eq_true] at first second ⊢
  exact ⟨Floating.equal_trans first.1 second.1, Floating.equal_trans first.2 second.2⟩

/-! ## Repeats -/

/-- Whether a coordinate is kept behind another one. -/
def Differs (previous coordinate : Coordinate) : Prop :=
  previous.equal coordinate = false

instance : DecidableRel Differs := fun previous coordinate =>
  inferInstanceAs (Decidable (previous.equal coordinate = false))

theorem cons_dropRepeatsAfter (previous : Coordinate) (ring : List Coordinate) :
    previous :: dropRepeatsAfter previous ring = ring.destutter' Differs previous := by
  induction ring generalizing previous with
  | nil => rfl
  | cons coordinate rest inductionHypothesis =>
      rw [dropRepeatsAfter]
      split
      · rename_i same
        rw [List.destutter'_cons_neg _ (by simp [Differs, same])]
        exact inductionHypothesis previous
      · rename_i differs
        have kept : Differs previous coordinate := Bool.eq_false_iff.2 differs
        rw [List.destutter'_cons_pos _ kept, inductionHypothesis]

theorem dropRepeats_eq_destutter (ring : Ring) : dropRepeats ring = ring.destutter Differs := by
  cases ring with
  | nil => rfl
  | cons first rest => exact cons_dropRepeatsAfter first rest

theorem dropRepeats_dropRepeats (ring : Ring) :
    dropRepeats (dropRepeats ring) = dropRepeats ring := by
  simp only [dropRepeats_eq_destutter]
  exact List.destutter_idem ring Differs

/-- The last coordinate is kept or equal to the last one that is. -/
theorem getLast_dropRepeatsAfter (previous : Coordinate) (ring : List Coordinate) :
    (previous :: dropRepeatsAfter previous ring).getLast (List.cons_ne_nil _ _) =
        (previous :: ring).getLast (List.cons_ne_nil _ _) ∨
      ((previous :: dropRepeatsAfter previous ring).getLast (List.cons_ne_nil _ _)).equal
        ((previous :: ring).getLast (List.cons_ne_nil _ _)) = true := by
  induction ring generalizing previous with
  | nil => exact .inl rfl
  | cons coordinate rest inductionHypothesis =>
      by_cases same : previous.equal coordinate = true
      · simp only [dropRepeatsAfter, same, if_true]
        cases rest with
        | nil => exact .inr same
        | cons next others => simpa using inductionHypothesis previous
      · simp only [dropRepeatsAfter, same]
        simpa using inductionHypothesis coordinate

theorem isClosed_cons_iff (first : Coordinate) (rest : List Coordinate) :
    Ring.isClosed (first :: rest) =
      first.equal ((first :: rest).getLast (List.cons_ne_nil _ _)) := by
  rw [Ring.isClosed, List.head?_cons, List.getLast?_eq_getLast_of_ne_nil (List.cons_ne_nil _ _)]

theorem isClosedAsWritten_dropRepeats {ring : Ring} (closed : isClosedAsWritten ring = true) :
    isClosedAsWritten (dropRepeats ring) = true := by
  cases ring with
  | nil => exact absurd closed (by decide)
  | cons first rest =>
      simp only [isClosedAsWritten, dropRepeats, List.isEmpty_cons, Bool.not_false,
        Bool.true_and, isClosed_cons_iff] at closed ⊢
      rcases getLast_dropRepeatsAfter first rest with same | equal
      · rw [same]
        exact closed
      · apply Coordinate.equal_trans closed
        rw [Coordinate.equal_comm]
        exact equal

/-! ## Shapes of filters -/

/-- A ring of a polygon that has passed the checks. -/
structure Ring.IsNormal (ring : Ring) : Prop where
  size : leastRingSize ≤ ring.length
  closed : isClosedAsWritten ring = true
  noRepeats : dropRepeats ring = ring

/-- A polygon that has passed the checks. -/
structure Polygon.IsNormal (polygon : Polygon) : Prop where
  shell : polygon ≠ []
  each : ∀ ring ∈ polygon, ring.IsNormal

/-- A shape of a kind that filters support. -/
inductive FilterShape where
  | point (coordinate : Coordinate)
  | linearRing (ring : Ring)
  | polygon (rings : Polygon)
  | multiPolygon (polygons : List Polygon)

namespace FilterShape

def chars : FilterShape → List Char
  | .point coordinate => pointChars coordinate
  | .linearRing ring => linearRingChars ring
  | .polygon rings => polygonChars rings
  | .multiPolygon polygons => multiPolygonChars polygons

/-- What the checks of filters establish. -/
def IsNormal : FilterShape → Prop
  | .point _ => True
  | .linearRing ring => leastRingSize ≤ ring.length ∧ ring.isClosed = true
  | .polygon rings => rings.IsNormal
  | .multiPolygon polygons => ∀ rings ∈ polygons, rings.IsNormal

end FilterShape

theorem isNormal_of_normalRing {ring kept : Ring} (closed : isClosedAsWritten ring = true)
    (normal : normalRing ring = .ok kept) : kept.IsNormal := by
  unfold normalRing at normal
  dsimp only at normal
  split at normal
  · cases normal
  · rename_i size
    cases normal
    exact {
      size := Nat.le_of_not_lt size
      closed := isClosedAsWritten_dropRepeats closed
      noRepeats := dropRepeats_dropRepeats ring }

theorem isNormal_of_normalPolygon {polygon kept : Polygon}
    (closed : polygon.all isClosedAsWritten = true) (normal : normalPolygon polygon = .ok kept) :
    kept.IsNormal := by
  cases polygon with
  | nil => cases normal
  | cons shell holes =>
      have normal : (shell :: holes).mapM normalRing = .ok kept := normal
      constructor
      · have sameLength := ((mapM_eq_ok_iff _ _ _).1 normal).length_eq
        intro isEmpty
        rw [isEmpty] at sameLength
        simp at sameLength
      · intro ring member
        obtain ⟨written, inPolygon, isRing⟩ := exists_mem_of_mapM_eq_ok normal member
        exact isNormal_of_normalRing (List.all_eq_true.1 closed written inPolygon) isRing

theorem closedPolygons_eq_ok_iff (polygons : List Polygon) :
    closedPolygons polygons = .ok () ↔
      ∀ polygon ∈ polygons, polygon.all isClosedAsWritten = true := by
  unfold closedPolygons
  split
  · rename_i closed
    exact iff_of_true rfl (List.all_eq_true.1 closed)
  · rename_i notClosed
    exact iff_of_false (by simp) fun closed => notClosed (List.all_eq_true.2 closed)

theorem closedPolygons_bind_eq_ok_iff {α : Type} {polygons : List Polygon}
    {rest : Except SearchError α} {value : α} :
    ((closedPolygons polygons).bind fun _ => rest) = .ok value ↔
      (∀ polygon ∈ polygons, polygon.all isClosedAsWritten = true) ∧ rest = .ok value := by
  rw [← closedPolygons_eq_ok_iff]
  cases closedPolygons polygons with
  | error error => exact iff_of_false (fun checked => by cases checked) (by simp)
  | ok => exact (and_iff_right rfl).symm

namespace FilterShape

theorem exists_of_normalLinearRing {rest normal : List Char}
    (isNormal : normalLinearRing rest = .ok normal) :
    ∃ shape : FilterShape, shape.IsNormal ∧ normal = shape.chars := by
  unfold normalLinearRing at isNormal
  split at isNormal
  · rename_i ring _
    split at isNormal
    · cases isNormal
    · rename_i checked
      cases isNormal
      simp only [Bool.or_eq_true, decide_eq_true_eq, Bool.not_eq_true', not_or, not_lt,
        Bool.not_eq_false] at checked
      exact ⟨.linearRing ring, checked, rfl⟩
  · cases isNormal

theorem exists_of_normalShape {shape : Shape} {normal : List Char}
    (isNormal : normalShape shape = .ok normal) :
    ∃ kept : FilterShape, kept.IsNormal ∧ normal = kept.chars := by
  cases shape with
  | point coordinate =>
      cases coordinate with
      | none => cases isNormal
      | some coordinate =>
          cases isNormal
          exact ⟨.point coordinate, trivial, rfl⟩
  | polygon polygon =>
      obtain ⟨closed, checked⟩ := closedPolygons_bind_eq_ok_iff.1 isNormal
      obtain ⟨kept, normalKept, rfl⟩ := map_eq_ok_iff.1 checked
      exact ⟨.polygon kept,
        isNormal_of_normalPolygon (closed polygon List.mem_cons_self) normalKept, rfl⟩
  | multiPolygon polygons =>
      obtain ⟨closed, checked⟩ := closedPolygons_bind_eq_ok_iff.1 isNormal
      obtain ⟨kept, normalKept, rfl⟩ := map_eq_ok_iff.1 checked
      refine ⟨.multiPolygon kept, fun polygon member => ?_, rfl⟩
      obtain ⟨written, inPolygons, isPolygon⟩ := exists_mem_of_mapM_eq_ok normalKept member
      exact isNormal_of_normalPolygon (closed written inPolygons) isPolygon
  | lineString line => cases isNormal
  | multiPoint points => cases isNormal
  | multiLineString lines => cases isNormal
  | collection members => cases isNormal

/-- A normal form is the text of a shape that has passed the checks. -/
theorem exists_of_normalForm {text normal : String} (isNormal : normalForm text = .ok normal) :
    ∃ shape : FilterShape, shape.IsNormal ∧ normal = String.ofList shape.chars := by
  unfold normalForm at isNormal
  obtain ⟨characters, checked, rfl⟩ := map_eq_ok_iff.1 isNormal
  split at checked
  · obtain ⟨shape, shapeNormal, rfl⟩ := exists_of_normalLinearRing checked
    exact ⟨shape, shapeNormal, rfl⟩
  · split at checked
    · obtain ⟨shape, shapeNormal, rfl⟩ := exists_of_normalShape checked
      exact ⟨shape, shapeNormal, rfl⟩
    · cases checked

end FilterShape

/-! ## Characters -/

/-- A character that shapes are written with. -/
def IsShapeCharacter (c : Char) : Prop :=
  IsValueCharacter c ∨ c = '(' ∨ c = ')' ∨ c = ',' ∨ c = ' '

instance : DecidablePred IsShapeCharacter := fun c =>
  inferInstanceAs (Decidable (IsValueCharacter c ∨ c = '(' ∨ c = ')' ∨ c = ',' ∨ c = ' '))

/-- A text of characters that shapes are written with. -/
def IsShapeText (text : List Char) : Prop :=
  ∀ c ∈ text, IsShapeCharacter c

namespace IsShapeText

variable {text other : List Char}

theorem append (first : IsShapeText text) (second : IsShapeText other) :
    IsShapeText (text ++ other) := by
  intro c member
  rcases List.mem_append.1 member with inFirst | inSecond
  · exact first c inFirst
  · exact second c inSecond

theorem cons {c : Char} (first : IsShapeCharacter c) (rest : IsShapeText text) :
    IsShapeText (c :: text) := by
  intro other member
  rcases List.mem_cons.1 member with rfl | inRest
  · exact first
  · exact rest other inRest

theorem parenthesized (inner : IsShapeText text) : IsShapeText (parenthesized text) :=
  (cons (by decide) inner).append (forall_mem_of_all (by decide))

theorem commaSeparated {texts : List (List Char)} (each : ∀ text ∈ texts, IsShapeText text) :
    IsShapeText (commaSeparated texts) := by
  induction texts with
  | nil =>
      intro c member
      cases member
  | cons first rest inductionHypothesis =>
      cases rest with
      | nil => exact each first List.mem_cons_self
      | cons second others =>
          exact (each first List.mem_cons_self).append
            (cons (by decide) (inductionHypothesis fun text member =>
              each text (List.mem_cons_of_mem first member)))

theorem ofNumber (number : Double) :
    IsShapeText (Floating.plainLayout.renderChars number) := fun c member =>
  .inl (Floating.plain_isValueCharacter number c member)

theorem ofCoordinate (coordinate : Coordinate) : IsShapeText coordinate.chars :=
  (ofNumber coordinate.x).append (cons (by decide) (ofNumber coordinate.y))

theorem ofRing (ring : Ring) : IsShapeText ring.chars := by
  refine (commaSeparated fun text member => ?_).parenthesized
  obtain ⟨coordinate, -, rfl⟩ := List.mem_map.1 member
  exact ofCoordinate coordinate

theorem ofPolygon (polygon : Polygon) : IsShapeText polygon.chars := by
  refine (commaSeparated fun text member => ?_).parenthesized
  obtain ⟨ring, -, rfl⟩ := List.mem_map.1 member
  exact ofRing ring

theorem ofShape (shape : FilterShape) : IsShapeText shape.chars := by
  have ofWord (word : String) (all : (word.toList.all fun c => decide (IsShapeCharacter c)) = true) :
      IsShapeText word.toList := forall_mem_of_all all
  cases shape with
  | point coordinate =>
      exact (ofWord "POINT" (by decide)).append (ofCoordinate coordinate).parenthesized
  | linearRing ring => exact (ofWord "LINEARRING" (by decide)).append (ofRing ring)
  | polygon rings => exact (ofWord "POLYGON" (by decide)).append (ofPolygon rings)
  | multiPolygon polygons =>
      show IsShapeText (multiPolygonChars polygons)
      unfold multiPolygonChars
      split
      · exact ofWord "MULTIPOLYGON EMPTY" (by decide)
      · refine (ofWord "MULTIPOLYGON" (by decide)).append
          (commaSeparated fun text member => ?_).parenthesized
        obtain ⟨polygon, -, rfl⟩ := List.mem_map.1 member
        exact ofPolygon polygon

end IsShapeText

theorem isShapeText_of_normalForm {text normal : String} (isNormal : normalForm text = .ok normal) :
    IsShapeText normal.toList := by
  obtain ⟨shape, -, rfl⟩ := FilterShape.exists_of_normalForm isNormal
  rw [String.toList_ofList]
  exact IsShapeText.ofShape shape

end Geometry

end FacetedSearch
