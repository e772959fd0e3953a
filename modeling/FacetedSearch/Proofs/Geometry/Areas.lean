import FacetedSearch.Proofs.Geometry.Idempotence
import Mathlib.Data.List.SplitBy

/-!
Contract: polygons and their normal forms, ring by ring.

Owns:
- `Ring.merged`, a ring with each run of equal neighbours as one coordinate, and
  `dropRepeats_eq_merged`: this is what the removal of repeats leaves;
- `Shape.polygons?`, the polygons of an area, and `Polygon.IsAccepted`, what each of them needs;
- `readShape?_linearRing`: texts of linear rings are no areas;
- `areas_keep_their_rings`: an area has a normal form exactly if each of its polygons is accepted,
  and the normal form is read as the same area with merged rings.

Does not own: shapes other than areas, and how areas are read.
-/

namespace FacetedSearch

namespace Geometry

/-! ## Runs -/

/-- The runs of equal neighbours of a ring. -/
def Ring.runs (ring : Ring) : List (List Coordinate) :=
  ring.splitBy Coordinate.equal

/-- A ring with the first coordinate of each run for the whole run. -/
def Ring.merged (ring : Ring) : Ring :=
  ring.runs.filterMap List.head?

theorem dropRepeatsAfter_append {previous : Coordinate} {repeats : List Coordinate}
    (same : ∀ coordinate ∈ repeats, previous.equal coordinate = true) (rest : List Coordinate) :
    dropRepeatsAfter previous (repeats ++ rest) = dropRepeatsAfter previous rest := by
  induction repeats with
  | nil => rfl
  | cons coordinate repeats inductionHypothesis =>
      obtain ⟨isSame, others⟩ := List.forall_mem_cons.1 same
      rw [List.cons_append, dropRepeatsAfter, if_pos isSame, inductionHypothesis others]

theorem dropRepeatsAfter_of_differs {previous : Coordinate} {rest : List Coordinate}
    (differs : ∀ next ∈ rest.head?, previous.equal next = false) :
    dropRepeatsAfter previous rest = dropRepeats rest := by
  cases rest with
  | nil => rfl
  | cons next rest => rw [dropRepeatsAfter, if_neg (by simp [differs next rfl]), dropRepeats]

/-- All coordinates of a run are equal to its first one. -/
theorem equal_first_of_isChain {first : Coordinate} {repeats : List Coordinate}
    (chain : (first :: repeats).IsChain fun left right => left.equal right = true) :
    ∀ coordinate ∈ repeats, first.equal coordinate = true := by
  have transitive : IsTrans Coordinate fun left right => left.equal right = true :=
    ⟨fun _ _ _ => Coordinate.equal_trans⟩
  exact (List.pairwise_cons.1 chain.pairwise).1

/-- Nothing behind a run is equal to its first coordinate, since it is not equal to the last. -/
theorem first_differs_of_last_differs {first next : Coordinate} {repeats : List Coordinate}
    (same : ∀ coordinate ∈ repeats, first.equal coordinate = true)
    (differs : ((first :: repeats).getLast (List.cons_ne_nil _ _)).equal next = false) :
    first.equal next = false := by
  rcases List.mem_cons.1 (List.getLast_mem (List.cons_ne_nil first repeats)) with isFirst | isRepeat
  · rwa [isFirst] at differs
  · have lastSame := same _ isRepeat
    by_contra firstSame
    rw [Coordinate.equal_comm] at lastSame
    rw [Coordinate.equal_trans lastSame (Bool.not_eq_false _ ▸ firstSame)] at differs
    cases differs

/-- Dropping repeats leaves the first coordinates of runs, run by run. -/
theorem dropRepeats_flatten {runs : List (List Coordinate)} (noneEmpty : [] ∉ runs)
    (chains : ∀ run ∈ runs, run.IsChain fun left right => left.equal right = true)
    (apart : runs.IsChain fun run next =>
      ∃ notEmpty nextNotEmpty, (run.getLast notEmpty).equal (next.head nextNotEmpty) = false) :
    dropRepeats runs.flatten = runs.filterMap List.head? := by
  induction runs with
  | nil => rfl
  | cons run others inductionHypothesis =>
      have someRun : run ≠ [] := fun isNil => noneEmpty (isNil ▸ List.mem_cons_self)
      obtain ⟨first, repeats, rfl⟩ := List.exists_cons_of_ne_nil someRun
      have same := equal_first_of_isChain (chains _ List.mem_cons_self)
      have othersLeft := inductionHypothesis (fun member => noneEmpty (.tail _ member))
        (fun run member => chains run (.tail _ member)) apart.tail
      have differs : ∀ next ∈ others.flatten.head?, first.equal next = false := by
        intro next isNext
        cases others with
        | nil => cases isNext
        | cons second further =>
            obtain ⟨_, someSecond, lastDiffers⟩ := (List.isChain_cons_cons.1 apart).1
            obtain ⟨start, rest, rfl⟩ := List.exists_cons_of_ne_nil someSecond
            obtain rfl : start = next := Option.some.inj isNext
            exact first_differs_of_last_differs same lastDiffers
      rw [List.flatten_cons, List.cons_append, dropRepeats, dropRepeatsAfter_append same,
        dropRepeatsAfter_of_differs differs, othersLeft]
      rfl

theorem dropRepeats_eq_merged (ring : Ring) : dropRepeats ring = ring.merged := by
  rw [Ring.merged, Ring.runs, ← dropRepeats_flatten (List.nil_notMem_splitBy _ _)
    (fun _ => List.isChain_of_mem_splitBy) (List.isChain_getLast_head_splitBy _ _),
    List.flatten_splitBy]

/-- No coordinate of a merged ring is equal to its neighbour. -/
theorem Ring.isChain_merged (ring : Ring) : ring.merged.IsChain Differs := by
  rw [← dropRepeats_eq_merged, dropRepeats_eq_destutter]
  exact List.isChain_destutter Differs ring

/-! ## Rings and polygons -/

/-- Whether a ring has a first and a last coordinate and these are equal. -/
def Ring.Closes (ring : Ring) : Prop :=
  ∃ first last, ring.head? = some first ∧ ring.getLast? = some last ∧ first.equal last = true

theorem isClosedAsWritten_iff (ring : Ring) : isClosedAsWritten ring = true ↔ ring.Closes := by
  unfold Ring.Closes
  cases ring with
  | nil => simp [isClosedAsWritten]
  | cons first rest =>
      rw [List.getLast?_eq_getLast_of_ne_nil (List.cons_ne_nil _ _)]
      simp [isClosedAsWritten, isClosed_cons_iff]

theorem Ring.Closes.merged {ring : Ring} (closes : ring.Closes) : ring.merged.Closes := by
  rw [← isClosedAsWritten_iff, ← dropRepeats_eq_merged]
  exact isClosedAsWritten_dropRepeats ((isClosedAsWritten_iff ring).2 closes)

/-- What a polygon needs: a shell, and rings that close and keep four coordinates at least. -/
structure Polygon.IsAccepted (polygon : Polygon) : Prop where
  shell : polygon ≠ []
  closes : ∀ ring ∈ polygon, ring.Closes
  size : ∀ ring ∈ polygon, 4 ≤ ring.merged.length

theorem normalRing_eq_ok_iff {ring kept : Ring} :
    normalRing ring = .ok kept ↔ 4 ≤ ring.merged.length ∧ ring.merged = kept := by
  rw [normalRing, dropRepeats_eq_merged]
  split
  · rename_i small
    exact iff_of_false (by simp) fun accepted => absurd accepted.1 (Nat.not_le.2 small)
  · rename_i notSmall
    rw [Except.ok.injEq]
    exact ⟨fun same => ⟨Nat.not_lt.1 notSmall, same⟩, And.right⟩

theorem normalPolygon_eq_ok_iff {polygon kept : Polygon} :
    normalPolygon polygon = .ok kept ↔
      (polygon ≠ [] ∧ ∀ ring ∈ polygon, 4 ≤ ring.merged.length) ∧
        polygon.map Ring.merged = kept := by
  cases polygon with
  | nil => simp [normalPolygon]
  | cons shell holes =>
      show (shell :: holes).mapM normalRing = .ok kept ↔ _
      rw [mapM_eq_ok_iff_map fun _ _ => normalRing_eq_ok_iff]
      exact and_congr_left fun _ => (and_iff_right (List.cons_ne_nil _ _)).symm

theorem all_isClosedAsWritten_iff (polygon : Polygon) :
    polygon.all isClosedAsWritten = true ↔ ∀ ring ∈ polygon, ring.Closes := by
  simp only [List.all_eq_true, isClosedAsWritten_iff]

/-- A polygon is closed as written and has a normal form exactly if it is accepted. -/
theorem Polygon.isAccepted_iff (polygon : Polygon) :
    polygon.IsAccepted ↔ polygon.all isClosedAsWritten = true ∧
      polygon ≠ [] ∧ ∀ ring ∈ polygon, 4 ≤ ring.merged.length := by
  rw [all_isClosedAsWritten_iff]
  exact ⟨fun accepted => ⟨accepted.closes, accepted.shell, accepted.size⟩,
    fun ⟨closes, shell, size⟩ => ⟨shell, closes, size⟩⟩

/-- A polygon with merged rings. -/
def Polygon.merged (polygon : Polygon) : Polygon :=
  polygon.map Ring.merged

theorem Polygon.IsAccepted.isNormal {polygon : Polygon} (accepted : polygon.IsAccepted) :
    polygon.merged.IsNormal where
  shell := mt List.map_eq_nil_iff.1 accepted.shell
  each := by
    intro ring member
    obtain ⟨written, inPolygon, rfl⟩ := List.mem_map.1 member
    constructor
    · exact accepted.size written inPolygon
    · exact (isClosedAsWritten_iff _).2 (accepted.closes written inPolygon).merged
    · rw [← dropRepeats_eq_merged, dropRepeats_dropRepeats]

/-! ## Numbers -/

/-- A coordinate of two finite numbers. -/
def Coordinate.IsFinite (coordinate : Coordinate) : Prop :=
  coordinate.x.isFinite = true ∧ coordinate.y.isFinite = true

instance : DecidablePred Coordinate.IsFinite := fun coordinate =>
  inferInstanceAs (Decidable (coordinate.x.isFinite = true ∧ coordinate.y.isFinite = true))

theorem isReadable_of_isFinite {value : Double} (finite : value.isFinite = true) :
    IsReadable value := by
  constructor
  · rintro rfl
    cases finite
  · rintro rfl
    cases finite

/-- Merged rings have no coordinates besides those of the rings. -/
theorem Ring.mem_of_mem_merged {ring : Ring} {coordinate : Coordinate}
    (member : coordinate ∈ ring.merged) : coordinate ∈ ring := by
  rw [← dropRepeats_eq_merged, dropRepeats_eq_destutter] at member
  exact (List.destutter_sublist Differs ring).subset member

theorem Polygon.isReadable_merged {polygon : Polygon}
    (finite : ∀ ring ∈ polygon, ∀ coordinate ∈ ring, coordinate.IsFinite) :
    ∀ ring ∈ polygon.merged, ∀ coordinate ∈ ring, coordinate.IsReadable := by
  intro ring inMerged coordinate member
  obtain ⟨written, inPolygon, rfl⟩ := List.mem_map.1 inMerged
  obtain ⟨finiteX, finiteY⟩ := finite written inPolygon coordinate (Ring.mem_of_mem_merged member)
  exact ⟨isReadable_of_isFinite finiteX, isReadable_of_isFinite finiteY⟩

/-! ## Areas -/

/-- The polygons of an area, which is one polygon or several. -/
def Shape.polygons? : Shape → Option (List Polygon)
  | .polygon rings => some [rings]
  | .multiPolygon polygons => some polygons
  | _ => none

/-- An area with each of its rings changed, all else as it is. -/
def Shape.mapRings (change : Ring → Ring) : Shape → Shape
  | .polygon rings => .polygon (rings.map change)
  | .multiPolygon polygons => .multiPolygon (polygons.map fun rings => rings.map change)
  | shape => shape

theorem normalShape_polygon_eq_ok_iff {polygon : Polygon} {normal : List Char} :
    normalShape (.polygon polygon) = .ok normal ↔
      polygon.IsAccepted ∧ polygonChars polygon.merged = normal := by
  rw [normalShape, closedPolygons_bind_eq_ok_iff, List.forall_mem_singleton, map_eq_ok_iff,
    polygon.isAccepted_iff]
  simp only [normalPolygon_eq_ok_iff]
  constructor
  · rintro ⟨closed, _, ⟨checked, rfl⟩, isText⟩
    exact ⟨⟨closed, checked⟩, isText⟩
  · rintro ⟨⟨closed, checked⟩, isText⟩
    exact ⟨closed, _, ⟨checked, rfl⟩, isText⟩

theorem normalShape_multiPolygon_eq_ok_iff {polygons : List Polygon} {normal : List Char} :
    normalShape (.multiPolygon polygons) = .ok normal ↔
      (∀ polygon ∈ polygons, polygon.IsAccepted) ∧
        multiPolygonChars (polygons.map Polygon.merged) = normal := by
  rw [normalShape, closedPolygons_bind_eq_ok_iff, map_eq_ok_iff]
  simp only [mapM_eq_ok_iff_map fun _ _ => normalPolygon_eq_ok_iff, Polygon.isAccepted_iff]
  constructor
  · rintro ⟨closed, _, ⟨checked, rfl⟩, isText⟩
    exact ⟨fun polygon member => ⟨closed polygon member, checked polygon member⟩, isText⟩
  · rintro ⟨accepted, isText⟩
    exact ⟨fun polygon member => (accepted polygon member).1, _,
      ⟨fun polygon member => (accepted polygon member).2, rfl⟩, isText⟩

/-- The text that an area has as its normal form if each of its polygons is accepted, and that is
read as the area with merged rings. -/
theorem exists_text_of_area {shape : Shape} {polygons : List Polygon}
    (isArea : shape.polygons? = some polygons)
    (finite : ∀ polygon ∈ polygons, ∀ ring ∈ polygon, ∀ coordinate ∈ ring, coordinate.IsFinite) :
    ∃ text, (∀ normal, normalShape shape = .ok normal ↔
        (∀ polygon ∈ polygons, polygon.IsAccepted) ∧ text = normal) ∧
      ((∀ polygon ∈ polygons, polygon.IsAccepted) →
        readShape? text = some (shape.mapRings Ring.merged)) := by
  cases shape with
  | polygon rings =>
      obtain rfl := Option.some.inj isArea
      simp only [List.forall_mem_singleton] at finite ⊢
      exact ⟨_, fun _ => normalShape_polygon_eq_ok_iff, fun accepted =>
        (isReadAs_polygon accepted.isNormal).back (Polygon.isReadable_merged finite)⟩
  | multiPolygon members =>
      obtain rfl : members = polygons := Option.some.inj isArea
      refine ⟨_, fun _ => normalShape_multiPolygon_eq_ok_iff, fun accepted => ?_⟩
      cases members with
      | nil => rfl
      | cons first others =>
          refine (isReadAs_multiPolygon (by simp) ?_).back ?_
          · intro polygon member
            obtain ⟨written, inArea, rfl⟩ := List.mem_map.1 member
            exact (accepted written inArea).isNormal
          · intro polygon member
            obtain ⟨written, inArea, rfl⟩ := List.mem_map.1 member
            exact Polygon.isReadable_merged (finite written inArea)
  | point coordinate => cases isArea
  | lineString line => cases isArea
  | multiPoint points => cases isArea
  | multiLineString lines => cases isArea
  | collection members => cases isArea

/-! ## Linear rings -/

/-- The first token of a text begins with the characters that are read already. -/
theorem exists_tokensAfter {read : List Char} (notEmpty : read ≠ []) (rest : List Char) :
    ∃ more others, tokensAfter read rest = .ofCharacters (read.reverse ++ more) :: others := by
  induction rest generalizing read with
  | nil =>
      refine ⟨[], [], ?_⟩
      rw [List.append_nil, tokensAfter]
      simp [precede, notEmpty]
  | cons c rest inductionHypothesis =>
      have ends (tokens : List Token) :
          ∃ more others, precede read tokens = .ofCharacters (read.reverse ++ more) :: others :=
        ⟨[], tokens, by simp [precede, notEmpty]⟩
      rw [tokensAfter]
      split
      · exact ends _
      · split
        · exact ends _
        · split
          · exact ends _
          · obtain ⟨more, others, isTokens⟩ := inductionHypothesis (List.cons_ne_nil c read)
            exact ⟨c :: more, others, by simpa using isTokens⟩

/-- The letters of the keyword of linear rings, in any case. -/
def IsLinearRingKeyword (text : List Char) : Prop :=
  text.map Char.toLower = linearRingKeyword.map Char.toLower

namespace IsLinearRingKeyword

variable {front : List Char}

theorem isInner (isKeyword : IsLinearRingKeyword front) : ∀ c ∈ front, IsInner c := by
  intro c member
  have isLetter : c.toLower ∈ linearRingKeyword.map Char.toLower :=
    isKeyword ▸ List.mem_map_of_mem member
  apply isInner_of_ne
  rintro other isOther rfl
  have noLetters : ∀ other ∈ ['\x00', ' ', '\t', '\n', '\r', '(', ')', ','],
      other.toLower ∉ linearRingKeyword.map Char.toLower :=
    forall_mem_of_all (by decide)
  exact noLetters c isOther isLetter

theorem ofCharacters_append (isKeyword : IsLinearRingKeyword front) (more : List Char) :
    Token.ofCharacters (front ++ more) = .word (front ++ more) := by
  cases front with
  | nil => cases isKeyword
  | cons first others =>
      have isLetter : first.toLower = 'l' := (List.cons.inj isKeyword).1
      refine if_neg fun begins => ?_
      simp only [Bool.or_eq_true, beq_iff_eq] at begins
      rcases begins with ((isDigit | rfl) | rfl) | rfl
      · rw [Floating.toLower_of_isDigit isDigit] at isLetter
        subst isLetter
        cases isDigit
      all_goals exact absurd isLetter (by decide)

/-- No other keyword begins with the letters of linear rings. -/
theorem isOther (isKeyword : IsLinearRingKeyword front) (more : List Char) {keyword : List Char}
    (differs : (keyword.map Char.toLower).take linearRingKeyword.length ≠
      linearRingKeyword.map Char.toLower) :
    Text.equalIgnoringAsciiCase keyword (front ++ more) = false := by
  rw [Text.equalIgnoringAsciiCase, beq_eq_false_iff_ne]
  intro same
  rw [same, List.map_append, isKeyword] at differs
  exact differs (List.take_left' (List.length_map _))

theorem kindOf?_append (isKeyword : IsLinearRingKeyword front) (more : List Char) :
    (kindOf? (front ++ more) = some .lineString ∨ kindOf? (front ++ more) = none) ∧
      extendedKindOf? (front ++ more) = none := by
  constructor
  · unfold kindOf?
    split
    · exact .inl rfl
    · right
      rw [Option.map_eq_none_iff, List.find?_eq_none]
      have differs : ∀ entry ∈ keywords,
          (entry.1.toList.map Char.toLower).take linearRingKeyword.length ≠
            linearRingKeyword.map Char.toLower := by
        decide
      intro entry member
      exact Bool.eq_false_iff.1 (isKeyword.isOther more (differs entry member))
  · rw [extendedKindOf?, List.findSome?_eq_none_iff]
    have differs : ∀ entry ∈ Dimensions.words, ∀ keyword ∈ keywords,
        ((keyword.1.toList ++ entry.1).map Char.toLower).take linearRingKeyword.length ≠
          linearRingKeyword.map Char.toLower := by
      decide
    intro entry isWord
    rw [Option.map_eq_none_iff, List.find?_eq_none]
    intro keyword member
    exact Bool.eq_false_iff.1 (isKeyword.isOther more (differs entry isWord keyword member))

theorem tokens_eq {text : List Char} (isKeyword : IsLinearRingKeyword front)
    (begins : front <+: text) :
    ∃ more others, tokens text = .word (front ++ more) :: others := by
  obtain ⟨rest, rfl⟩ := begins
  have notEmpty : front.reverse ≠ [] := by
    intro isNil
    rw [List.reverse_eq_nil_iff.1 isNil] at isKeyword
    cases isKeyword
  obtain ⟨more, others, isTokens⟩ := exists_tokensAfter notEmpty rest
  refine ⟨more, others, ?_⟩
  rw [tokens, tokensAfter_append isKeyword.isInner, List.append_nil, isTokens, List.reverse_reverse,
    isKeyword.ofCharacters_append]

/-- The header of a text with the keyword, if it has one, is that of a line. -/
theorem kind_of_header (isKeyword : IsLinearRingKeyword front) {more : List Char}
    {others behind : List Token} {kind : Kind} {dimensions : Dimensions}
    (isHeader : header (.word (front ++ more) :: others) = some ((kind, dimensions), behind)) :
    kind = .lineString := by
  obtain ⟨isLine | noKind, notExtended⟩ := isKeyword.kindOf?_append more
  · rw [header, isLine] at isHeader
    obtain ⟨read, -, same⟩ := Option.map_eq_some_iff.1 isHeader
    exact (congrArg (fun found => found.1.1) same).symm
  · rw [header, noKind, notExtended] at isHeader
    cases isHeader

end IsLinearRingKeyword

theorem exists_header_of_readShape? {text : List Char} {shape : Shape}
    (read : readShape? text = some shape) :
    ∃ kind dimensions behind inner after,
      header (tokens text) = some ((kind, dimensions), behind) ∧
        body inner dimensions kind behind = some (shape, after) := by
  obtain ⟨⟨_, after⟩, isRead, rfl⟩ := Option.map_eq_some_iff.1 read
  cases bound : (tokens text).length with
  | zero =>
      rw [bound] at isRead
      cases isRead
  | succ levels =>
      rw [bound, shapeWithin] at isRead
      cases isHeader : header (tokens text) with
      | none =>
          rw [isHeader] at isRead
          cases isRead
      | some found =>
          obtain ⟨⟨kind, dimensions⟩, behind⟩ := found
          rw [isHeader] at isRead
          exact ⟨kind, dimensions, behind, shapeWithin levels, after, rfl, isRead⟩

/-- A text that begins as one of a linear ring is read as a line, if at all. -/
theorem readShape?_linearRing {text rest : List Char} {shape : Shape}
    (isRing : afterLinearRing? text = some rest) (read : readShape? text = some shape) :
    ∃ line, shape = .lineString line := by
  rw [afterLinearRing?, Option.ite_none_right_eq_some] at isRing
  have isKeyword : IsLinearRingKeyword (text.take linearRingKeyword.length) := eq_of_beq isRing.1
  obtain ⟨more, others, isTokens⟩ := isKeyword.tokens_eq (List.take_prefix _ text)
  obtain ⟨kind, dimensions, behind, inner, after, isHeader, isBody⟩ :=
    exists_header_of_readShape? read
  rw [isTokens] at isHeader
  obtain rfl := isKeyword.kind_of_header isHeader
  obtain ⟨⟨line, _⟩, -, same⟩ := Option.map_eq_some_iff.1 isBody
  exact ⟨line, (congrArg Prod.fst same).symm⟩

/-! ## Normal forms -/

/-- **Normal forms of areas are the areas ring by ring.** A text that is read as a polygon or
several polygons with finite coordinates has a normal form exactly if each polygon has a shell and
each ring ends where it begins and keeps four coordinates when each run of equal neighbours is
replaced by one coordinate. The normal form is read as the same polygons with each ring replaced
so; these rings still end where they begin, and no two neighbours in them are equal. -/
theorem areas_keep_their_rings {text : String} {shape : Shape} {polygons : List Polygon}
    (read : readShape? (Text.trimBlanks text.toList) = some shape)
    (isArea : shape.polygons? = some polygons)
    (finite : ∀ polygon ∈ polygons, ∀ ring ∈ polygon, ∀ coordinate ∈ ring, coordinate.IsFinite) :
    ((∃ normal, normalForm text = .ok normal) ↔ ∀ polygon ∈ polygons, polygon.IsAccepted) ∧
      ∀ normal, normalForm text = .ok normal →
        readShape? normal.toList = some (shape.mapRings Ring.merged) ∧
          ∀ polygon ∈ polygons, ∀ ring ∈ polygon,
            ring.merged.Closes ∧ ring.merged.IsChain Differs := by
  have notRing : afterLinearRing? (Text.trimBlanks text.toList) = none := by
    cases isRing : afterLinearRing? (Text.trimBlanks text.toList) with
    | none => rfl
    | some rest =>
        obtain ⟨line, rfl⟩ := readShape?_linearRing isRing read
        cases isArea
  obtain ⟨written, isNormalShape, readBack⟩ := exists_text_of_area isArea finite
  have isNormalForm (normal : String) : normalForm text = .ok normal ↔
      (∀ polygon ∈ polygons, polygon.IsAccepted) ∧ String.ofList written = normal := by
    simp only [normalForm, notRing, read, map_eq_ok_iff, isNormalShape]
    constructor
    · rintro ⟨_, ⟨accepted, rfl⟩, isText⟩
      exact ⟨accepted, isText⟩
    · rintro ⟨accepted, isText⟩
      exact ⟨written, ⟨accepted, rfl⟩, isText⟩
  simp only [isNormalForm]
  constructor
  · exact ⟨fun ⟨_, accepted, _⟩ => accepted, fun accepted => ⟨_, accepted, rfl⟩⟩
  · rintro _ ⟨accepted, rfl⟩
    rw [String.toList_ofList]
    refine ⟨readBack accepted, fun polygon inArea ring inPolygon => ⟨?_, ring.isChain_merged⟩⟩
    exact ((accepted polygon inArea).closes ring inPolygon).merged

end Geometry

namespace Observations

/-- Two areas, one of them with a hole. Corners are repeated, also where a ring ends. -/
def enclosure : String :=
  " MultiPolygon(((0 0,0 0,4 0,4 4,0 0,-0 0),(1 1,2 1,2 1,2 2,1 1)),((9 9,9 8,8 8,9 9))) "

theorem areas_keep_their_rings_enclosure :
    ∃ shape polygons, Geometry.readShape? (Text.trimBlanks enclosure.toList) = some shape ∧
      shape.polygons? = some polygons ∧ (∀ polygon ∈ polygons, polygon.IsAccepted) ∧
        Geometry.readShape?
            "MULTIPOLYGON(((0 0,4 0,4 4,0 0),(1 1,2 1,2 2,1 1)),((9 9,9 8,8 8,9 9)))".toList =
          some (shape.mapRings Geometry.Ring.merged) := by
  have isNormal : Geometry.normalForm enclosure =
      .ok "MULTIPOLYGON(((0 0,4 0,4 4,0 0),(1 1,2 1,2 2,1 1)),((9 9,9 8,8 8,9 9)))" := by
    decide +kernel
  have checked : ((Geometry.readShape? (Text.trimBlanks enclosure.toList)).bind
      Geometry.Shape.polygons?).any (fun polygons => polygons.all fun polygon =>
        polygon.all fun ring => ring.all fun corner => decide corner.IsFinite) = true := by
    decide +kernel
  obtain ⟨polygons, isArea, finite⟩ := (Option.any_eq_true _ _).1 checked
  obtain ⟨shape, read, isArea⟩ := Option.bind_eq_some_iff.1 isArea
  simp only [List.all_eq_true, decide_eq_true_eq] at finite
  obtain ⟨accepted, kept⟩ := Geometry.areas_keep_their_rings read isArea finite
  exact ⟨shape, polygons, read, isArea, accepted.1 ⟨_, isNormal⟩, (kept _ isNormal).1⟩

end Observations

end FacetedSearch
