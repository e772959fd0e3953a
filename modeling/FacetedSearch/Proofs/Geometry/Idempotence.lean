import FacetedSearch.Proofs.Geometry.Tokens

/-!
Contract: the normal forms of normal forms.

Owns:
- `Reads`, what a reader does with the tokens of one item, with any tokens behind them, and that
  lists and parentheses keep it;
- `FilterShape.isKept_chars`: the text of a shape that has passed the checks is its own normal form
  if its numbers are read back, and has none otherwise;
- `normalForm_eq_self_iff`: which normal forms are their own normal forms.

A number beyond the greatest one is read as infinity, and its word is not read back.

Does not own: shapes that filters do not support.
-/

namespace FacetedSearch

namespace Geometry

/-! ## Readers -/

/-- A reader that reads an item back from its tokens if the item is readable, and fails otherwise,
whatever follows. -/
structure Reads {α : Type} (reader : Reader α) (written : List Token) (item : α)
    (readable : Prop) : Prop where
  back : readable → ∀ rest, reader (written ++ rest) = some (item, rest)
  fails : ¬ readable → ∀ rest, reader (written ++ rest) = none

/-- In parentheses a reader only has to read up to the closing one. -/
theorem reads_enclosed_of {α : Type} {reader : Reader α} {written : List Token} {item empty : α}
    {readable : Prop}
    (back : readable → ∀ rest, reader (written ++ .closeParenthesis :: rest) =
      some (item, .closeParenthesis :: rest))
    (fails : ¬ readable → ∀ rest, reader (written ++ .closeParenthesis :: rest) = none) :
    Reads (enclosed empty reader) (Token.enclosed written) item readable where
  back := by
    intro isReadable rest
    rw [Token.enclosed_append, enclosed, back isReadable]
  fails := by
    intro unreadable rest
    rw [Token.enclosed_append, enclosed, fails unreadable]

theorem ofNumber_of_not_isReadable {value : Double} (unreadable : ¬ IsReadable value) :
    ∃ word, Token.ofNumber value = .word word := by
  cases value with
  | finite negative code => exact absurd ⟨by simp, by simp⟩ unreadable
  | infinite negative =>
      cases negative with
      | true => exact absurd ⟨by simp, by simp⟩ unreadable
      | false => exact ⟨_, rfl⟩
  | notANumber => exact ⟨_, rfl⟩

theorem reads_coordinate (item : Coordinate) :
    Reads (coordinate .plane) item.tokens item item.IsReadable where
  back := by
    intro readable rest
    rw [Coordinate.tokens, ofNumber_of_isReadable readable.1, ofNumber_of_isReadable readable.2]
    rfl
  fails := by
    intro unreadable rest
    rw [Coordinate.tokens]
    by_cases first : IsReadable item.x
    · obtain ⟨word, isWord⟩ :=
        ofNumber_of_not_isReadable fun second => unreadable ⟨first, second⟩
      rw [ofNumber_of_isReadable first, isWord]
      rfl
    · obtain ⟨word, isWord⟩ := ofNumber_of_not_isReadable first
      rw [isWord]
      rfl

section Lists

variable {α : Type} {element : Reader α} {tokensOf : α → List Token} {readable : α → Prop}

theorem length_le_separated (tokensOf : α → List Token) (items : List α) (rest : List Token) :
    items.length ≤ (Token.separated (items.map tokensOf) ++ .closeParenthesis :: rest).length := by
  induction items with
  | nil => exact Nat.zero_le _
  | cons first others inductionHypothesis =>
      cases others with
      | nil =>
          show 1 ≤ _
          rw [List.length_append, List.length_cons]
          omega
      | cons second further =>
          show _ ≤ ((tokensOf first ++ .comma :: Token.separated
            ((second :: further).map tokensOf)) ++ .closeParenthesis :: rest).length
          simp only [List.append_assoc, List.cons_append, List.length_append, List.length_cons]
            at inductionHypothesis ⊢
          omega

/-- Elements are read up to the end of their parentheses, or not at all. -/
theorem elementsWithin_separated {items : List α} (notEmpty : items ≠ [])
    (each : ∀ item ∈ items, Reads element (tokensOf item) item (readable item))
    (rest : List Token) {bound : Nat} (bounded : items.length ≤ bound) :
    ((∀ item ∈ items, readable item) →
      elementsWithin element bound
          (Token.separated (items.map tokensOf) ++ .closeParenthesis :: rest) =
        some (items, .closeParenthesis :: rest)) ∧
    ((¬ ∀ item ∈ items, readable item) →
      elementsWithin element bound
          (Token.separated (items.map tokensOf) ++ .closeParenthesis :: rest) = none) := by
  -- The elements behind a comma are read within a smaller bound.
  induction items generalizing bound with
  | nil => exact absurd rfl notEmpty
  | cons first others inductionHypothesis =>
      obtain ⟨fewer, rfl⟩ : ∃ fewer, bound = fewer + 1 :=
        Nat.exists_eq_succ_of_ne_zero (by rintro rfl; simp at bounded)
      have firstReads := each first List.mem_cons_self
      cases others with
      | nil =>
          have isList : Token.separated ([first].map tokensOf) = tokensOf first := rfl
          rw [isList, List.forall_mem_singleton, elementsWithin]
          constructor
          · intro isReadable
            rw [firstReads.back isReadable]
          · intro unreadable
            rw [firstReads.fails unreadable]
      | cons second further =>
          have isList : Token.separated ((first :: second :: further).map tokensOf) =
              tokensOf first ++ .comma :: Token.separated ((second :: further).map tokensOf) := rfl
          obtain ⟨back, fails⟩ := inductionHypothesis (List.cons_ne_nil _ _)
            (fun item member => each item (List.mem_cons_of_mem first member))
            (Nat.le_of_succ_le_succ bounded)
          rw [isList, List.append_assoc, List.cons_append, elementsWithin]
          constructor
          · intro isReadable
            rw [firstReads.back (isReadable first List.mem_cons_self)]
            dsimp only
            rw [back fun item member => isReadable item (List.mem_cons_of_mem first member)]
            rfl
          · intro unreadable
            by_cases firstReadable : readable first
            · rw [firstReads.back firstReadable]
              dsimp only
              rw [fails fun others => unreadable (List.forall_mem_cons.2 ⟨firstReadable, others⟩)]
              rfl
            · rw [firstReads.fails firstReadable]

/-- A list in parentheses is read if its elements are. -/
theorem reads_enclosed {items : List α} (notEmpty : items ≠ [])
    (each : ∀ item ∈ items, Reads element (tokensOf item) item (readable item)) :
    Reads (enclosed [] (elements element))
      (Token.enclosed (Token.separated (items.map tokensOf))) items
      (∀ item ∈ items, readable item) := by
  have read (rest : List Token) :=
    elementsWithin_separated notEmpty each rest (length_le_separated tokensOf items rest)
  apply reads_enclosed_of
  · exact fun isReadable rest => (read rest).1 isReadable
  · exact fun unreadable rest => (read rest).2 unreadable

end Lists

theorem reads_line {ring : Ring} (notEmpty : ring ≠ []) :
    Reads (line .plane) ring.tokens ring (∀ item ∈ ring, item.IsReadable) :=
  reads_enclosed notEmpty fun item _ => reads_coordinate item

theorem reads_lines {polygon : Polygon} (normal : polygon.IsNormal) :
    Reads (lines .plane) polygon.tokens polygon
      (∀ ring ∈ polygon, ∀ item ∈ ring, item.IsReadable) := by
  apply reads_enclosed normal.shell
  intro ring member
  apply reads_line
  rintro rfl
  exact absurd (normal.each [] member).size (by decide)

/-! ## Shapes -/

section Kinds

variable {α β : Type} {reader : Reader α} {written : List Token} {item : α} {readable : Prop}

theorem Reads.map (reads : Reads reader written item readable) (change : α → β) :
    Reads (reader.map change) written (change item) readable where
  back := by
    intro isReadable rest
    rw [Reader.map, reads.back isReadable]
    rfl
  fails := by
    intro unreadable rest
    rw [Reader.map, reads.fails unreadable]
    rfl

theorem Reads.enclosed (reads : Reads reader written item readable) (empty : α) :
    Reads (enclosed empty reader) (Token.enclosed written) item readable :=
  reads_enclosed_of (fun isReadable _ => reads.back isReadable _)
    fun unreadable _ => reads.fails unreadable _

/-- A text that is read as a shape if the shape is readable, and not at all otherwise. -/
structure IsReadAs (text : List Char) (shape : Shape) (readable : Prop) : Prop where
  back : readable → readShape? text = some shape
  fails : ¬ readable → readShape? text = none

/-- A keyword decides how the tokens in parentheses behind it are read. -/
theorem isReadAs_of_tokens (kind : Kind) {text word : List Char} {inner : List Token}
    {shape : Shape} (isTokens : tokens text = .word word :: Token.enclosed inner)
    (isKind : kindOf? word = some kind)
    (reads : ∀ shapes : Reader Shape,
      Reads (body shapes .plane kind) (Token.enclosed inner) shape readable) :
    IsReadAs text shape readable := by
  have isHeader : header (.word word :: Token.enclosed inner) =
      some ((kind, .plane), Token.enclosed inner) := by
    rw [header, isKind]
    rfl
  have isShape : readShape? text =
      (body (shapeWithin (Token.enclosed inner).length) .plane kind
        (Token.enclosed inner)).map Prod.fst := by
    rw [readShape?, isTokens]
    show (shapeWithin ((Token.enclosed inner).length + 1) _).map Prod.fst = _
    rw [shapeWithin, isHeader]
  have bodyReads := reads (shapeWithin (Token.enclosed inner).length)
  constructor
  · intro isReadable
    have read := bodyReads.back isReadable []
    rw [List.append_nil] at read
    rw [isShape, read]
    rfl
  · intro unreadable
    have read := bodyReads.fails unreadable []
    rw [List.append_nil] at read
    rw [isShape, read]
    rfl

end Kinds

theorem isReadAs_point (item : Coordinate) :
    IsReadAs (pointChars item) (.point (some item)) item.IsReadable :=
  isReadAs_of_tokens .point (FilterShape.point item).tokens_chars rfl fun _ =>
    (((reads_coordinate item).map some).enclosed none).map Shape.point

theorem isReadAs_line {ring : Ring} (notEmpty : ring ≠ []) :
    IsReadAs ("LINESTRING".toList ++ ring.chars) (.lineString ring)
      (∀ item ∈ ring, item.IsReadable) := by
  have isTokens : tokens ("LINESTRING".toList ++ ring.chars) =
      .word "LINESTRING".toList :: ring.tokens :=
    (Cuts.keyword "LINESTRING" (by decide) (by decide) rfl (Cuts.ring ring)).tokens_eq
  exact isReadAs_of_tokens .lineString isTokens rfl fun _ =>
    (reads_line notEmpty).map Shape.lineString

theorem isReadAs_polygon {polygon : Polygon} (normal : polygon.IsNormal) :
    IsReadAs (polygonChars polygon) (.polygon polygon)
      (∀ ring ∈ polygon, ∀ item ∈ ring, item.IsReadable) :=
  isReadAs_of_tokens .polygon (FilterShape.polygon polygon).tokens_chars rfl fun _ =>
    (reads_lines normal).map Shape.polygon

theorem isReadAs_multiPolygon {polygons : List Polygon} (notEmpty : polygons ≠ [])
    (normal : ∀ polygon ∈ polygons, polygon.IsNormal) :
    IsReadAs (multiPolygonChars polygons) (.multiPolygon polygons)
      (∀ polygon ∈ polygons, ∀ ring ∈ polygon, ∀ item ∈ ring, item.IsReadable) := by
  have isTokens : tokens (multiPolygonChars polygons) = .word "MULTIPOLYGON".toList ::
      Token.enclosed (Token.separated (polygons.map Polygon.tokens)) := by
    obtain ⟨first, others, rfl⟩ := List.exists_cons_of_ne_nil notEmpty
    exact (FilterShape.multiPolygon (first :: others)).tokens_chars
  exact isReadAs_of_tokens .multiPolygon isTokens rfl fun _ =>
    (reads_enclosed notEmpty fun polygon member => reads_lines (normal polygon member)).map
      Shape.multiPolygon

/-! ## Checks -/

theorem normalRing_of_isNormal {ring : Ring} (normal : ring.IsNormal) :
    normalRing ring = .ok ring := by
  unfold normalRing
  rw [normal.noRepeats, if_neg (Nat.not_lt.2 normal.size)]

theorem mapM_of_fixed {α : Type} {step : α → Except SearchError α} {items : List α}
    (fixed : ∀ item ∈ items, step item = .ok item) : items.mapM step = .ok items := by
  rw [mapM_eq_ok_iff, List.forall₂_same]
  exact fixed

theorem normalPolygon_of_isNormal {polygon : Polygon} (normal : polygon.IsNormal) :
    normalPolygon polygon = .ok polygon := by
  obtain ⟨shell, holes, rfl⟩ := List.exists_cons_of_ne_nil normal.shell
  exact mapM_of_fixed fun ring member => normalRing_of_isNormal (normal.each ring member)

theorem closedPolygons_of_isNormal {polygons : List Polygon}
    (normal : ∀ polygon ∈ polygons, polygon.IsNormal) : closedPolygons polygons = .ok () := by
  rw [closedPolygons_eq_ok_iff]
  intro polygon member
  rw [List.all_eq_true]
  exact fun ring inPolygon => ((normal polygon member).each ring inPolygon).closed

/-! ## Normal forms -/

theorem afterLinearRing?_eq_none {first : Char} {rest : List Char} (other : first.toLower ≠ 'l') :
    afterLinearRing? (first :: rest) = none := by
  have differs : Text.equalIgnoringAsciiCase (first :: rest.take 9) linearRingKeyword ≠ true := by
    intro same
    rw [Text.equalIgnoringAsciiCase, beq_iff_eq, List.map_cons] at same
    exact other (List.cons.inj same).1
  exact if_neg differs

theorem afterLinearRing?_linearRingChars (ring : Ring) :
    afterLinearRing? (linearRingChars ring) = some ring.chars := by
  have split : linearRingChars ring = linearRingKeyword ++ ring.chars := rfl
  rw [afterLinearRing?, split, List.take_left, List.drop_left]
  exact if_pos (beq_self_eq_true _)

/-- The texts of shapes begin with a letter and end with one or with a parenthesis. -/
theorem FilterShape.noBlankEnds (shape : FilterShape) : NoBlankEnds shape.chars := by
  have ofEnds {first last : Char} (inner : List Char) (firstVisible : Text.isBlank first = false)
      (lastVisible : Text.isBlank last = false) : NoBlankEnds (first :: inner ++ [last]) := by
    constructor
    · intro c member
      rw [List.cons_append, List.head?_cons, Option.mem_some] at member
      exact member ▸ firstVisible
    · intro c member
      rw [List.getLast?_concat, Option.mem_some] at member
      exact member ▸ lastVisible
  have ofKeyword {first : Char} {keyword inner : List Char}
      (firstVisible : Text.isBlank first = false) :
      NoBlankEnds (first :: keyword ++ parenthesized inner) := by
    have split : first :: keyword ++ parenthesized inner =
        first :: (keyword ++ '(' :: inner) ++ [')'] := by
      simp [parenthesized]
    rw [split]
    exact ofEnds _ firstVisible (by decide)
  cases shape with
  | point coordinate => exact ofKeyword (by decide)
  | linearRing ring => exact ofKeyword (by decide)
  | polygon rings => exact ofKeyword (by decide)
  | multiPolygon polygons =>
      cases polygons with
      | nil => exact ofEnds "ULTIPOLYGON EMPT".toList (by decide) (by decide)
      | cons first others => exact ofKeyword (by decide)

/-- A text that is its own normal form if it is readable, and has none otherwise. -/
structure IsKept (text : List Char) (readable : Prop) : Prop where
  kept : readable → normalForm (String.ofList text) = .ok (String.ofList text)
  fails : ¬ readable → ∃ error, normalForm (String.ofList text) = .error error

/-- The normal form of a text without blanks at its ends that is no linear ring. -/
theorem normalForm_of_noBlankEnds {text : List Char} (ends : NoBlankEnds text)
    (notRing : afterLinearRing? text = none) :
    normalForm (String.ofList text) =
      ((readShape? text).elim (.error (.shape (.unreadable (String.ofList text))))
        normalShape).map String.ofList := by
  unfold normalForm
  simp only [String.toList_ofList, ends.trimBlanks, notRing]
  cases readShape? text with
  | none => rfl
  | some shape => rfl

theorem isKept_of_isReadAs {text : List Char} {shape : Shape} {readable : Prop}
    (ends : NoBlankEnds text) (notRing : afterLinearRing? text = none)
    (normal : normalShape shape = .ok text) (read : IsReadAs text shape readable) :
    IsKept text readable where
  kept := by
    intro isReadable
    rw [normalForm_of_noBlankEnds ends notRing, read.back isReadable, Option.elim_some, normal]
    rfl
  fails := by
    intro unreadable
    rw [normalForm_of_noBlankEnds ends notRing, read.fails unreadable]
    exact ⟨_, rfl⟩

theorem isKept_linearRing {ring : Ring} (size : leastRingSize ≤ ring.length)
    (closed : ring.isClosed = true) :
    IsKept (linearRingChars ring) (∀ item ∈ ring, item.IsReadable) := by
  have notEmpty : ring ≠ [] := by
    rintro rfl
    exact absurd size (by decide)
  have isNormal : normalForm (String.ofList (linearRingChars ring)) =
      (normalLinearRing ring.chars).map String.ofList := by
    have ends : NoBlankEnds (linearRingChars ring) := (FilterShape.linearRing ring).noBlankEnds
    unfold normalForm
    simp only [String.toList_ofList, ends.trimBlanks, afterLinearRing?_linearRingChars]
  have checked : (ring.length < leastRingSize || !ring.isClosed) = false := by
    simp [size, closed]
  have read := isReadAs_line notEmpty
  constructor
  · intro isReadable
    rw [isNormal, normalLinearRing, read.back isReadable]
    dsimp only
    rw [checked]
    rfl
  · intro unreadable
    rw [isNormal, normalLinearRing, read.fails unreadable]
    exact ⟨_, rfl⟩

/-- The text of a shape that has passed the checks is kept if the numbers of the shape are read
back. -/
theorem FilterShape.isKept_chars {shape : FilterShape} (normal : shape.IsNormal) :
    IsKept shape.chars (∀ coordinate ∈ shape.coordinates, coordinate.IsReadable) := by
  cases shape with
  | point coordinate =>
      rw [coordinates, List.forall_mem_singleton]
      exact isKept_of_isReadAs (point coordinate).noBlankEnds
        (afterLinearRing?_eq_none (by decide)) rfl (isReadAs_point coordinate)
  | linearRing ring => exact isKept_linearRing normal.1 normal.2
  | polygon rings =>
      have isNormal : normalShape (.polygon rings) = .ok (polygonChars rings) := by
        rw [normalShape, closedPolygons_of_isNormal (List.forall_mem_singleton.2 normal),
          normalPolygon_of_isNormal normal]
        rfl
      rw [coordinates, List.forall_mem_flatten]
      exact isKept_of_isReadAs (polygon rings).noBlankEnds
        (afterLinearRing?_eq_none (by decide)) isNormal (isReadAs_polygon normal)
  | multiPolygon polygons =>
      cases polygons with
      | nil =>
          constructor
          · exact fun _ => rfl
          · exact fun unreadable => absurd (by simp [coordinates]) unreadable
      | cons first others =>
          have isNormal : normalShape (.multiPolygon (first :: others)) =
              .ok (multiPolygonChars (first :: others)) := by
            rw [normalShape, closedPolygons_of_isNormal normal,
              mapM_of_fixed fun rings member => normalPolygon_of_isNormal (normal rings member)]
            rfl
          rw [coordinates, List.forall_mem_flatten, List.forall_mem_flatten]
          exact isKept_of_isReadAs (multiPolygon (first :: others)).noBlankEnds
            (afterLinearRing?_eq_none (by decide)) isNormal
            (isReadAs_multiPolygon (List.cons_ne_nil _ _) normal)

/-- **Normal forms are their own normal forms unless a number is a word.** Infinity and not-a-number
are written as words, which no reader takes for numbers; numbers too large for the format are
infinite. All other normal forms, negative infinity included, are their own. -/
theorem normalForm_eq_self_iff {text normal : String} (isNormal : normalForm text = .ok normal) :
    normalForm normal = .ok normal ↔
      .word "inf".toList ∉ tokens normal.toList ∧ .word "NaN".toList ∉ tokens normal.toList := by
  obtain ⟨shape, checked, rfl⟩ := FilterShape.exists_of_normalForm isNormal
  have isKept := FilterShape.isKept_chars checked
  rw [String.toList_ofList, shape.tokens_chars, ← shape.isReadable_iff]
  refine ⟨fun again => ?_, isKept.kept⟩
  by_contra unreadable
  obtain ⟨error, failed⟩ := isKept.fails unreadable
  rw [failed] at again
  cases again

end Geometry

/-! ## Observations of species -/

namespace Observations

/-- An area with heights, a repeated corner and a keyword in lower case. -/
def area : String :=
  " polygon z((0 0 7, 0 0 8, 1.50 0 7, 1 1e0 7, -0 0 7)) "

theorem normalForm_eq_self_iff_area :
    ∃ normal, Geometry.normalForm area = .ok normal ∧ Geometry.normalForm normal = .ok normal := by
  have isNormal : Geometry.normalForm area = .ok "POLYGON((0 0,1.5 0,1 1,-0 0))" := by
    decide +kernel
  refine ⟨_, isNormal, (Geometry.normalForm_eq_self_iff isNormal).2 ⟨?_, ?_⟩⟩
  · decide +kernel
  · decide +kernel

/-- A point beyond the greatest number. -/
def farPoint : String :=
  "POINT(1e400 0)"

/-- A point with a number that is too large has a normal form whose own normal form is an error. -/
theorem normalForm_not_idempotent :
    ∃ normal error, Geometry.normalForm farPoint = .ok normal ∧
      Geometry.normalForm normal = .error error :=
  ⟨"POINT(inf 0)", .shape (.unreadable "POINT(inf 0)"), by decide +kernel, by decide +kernel⟩

end Observations

end FacetedSearch
