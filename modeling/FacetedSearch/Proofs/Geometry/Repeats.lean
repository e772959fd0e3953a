import FacetedSearch.Proofs.Geometry.Areas

/-!
Contract: what the removal of repeats takes from a ring, coordinate by coordinate.

Owns:
- `Ring.repeats`, how many coordinates of a ring are equal to the one before them, and
  `length_dropRepeats`: so many are removed;
- `Ring.IsWithoutRepeats`, what is left when exactly the repeats of a ring are removed;
- `Ring.stuttered`, a ring with its coordinates repeated in place, and `dropRepeats_stuttered`:
  repetitions in place make no difference;
- `exactly_repeats_are_removed`, which puts these together for rings of finite coordinates.

Coordinates are compared with the last one that was kept, which need not be the one before them.
Both are equal to the same coordinates, and this is what carries the count through a ring.

Does not own: the checks of rings and the normal forms of shapes.
-/

namespace FacetedSearch

namespace Geometry

/-! ## Coordinates that are equal -/

theorem equal_self_of_isFinite {format : Floating.Format} {number : Floating format}
    (finite : number.isFinite = true) : number.equal number = true := by
  cases number with
  | finite negative code => simp [Floating.equal]
  | infinite negative => cases finite
  | notANumber => cases finite

theorem Coordinate.IsFinite.equal_self {coordinate : Coordinate} (finite : coordinate.IsFinite) :
    coordinate.equal coordinate = true := by
  rw [Coordinate.equal, equal_self_of_isFinite finite.1, equal_self_of_isFinite finite.2, Bool.and_self]

/-- Equal coordinates are equal to the same coordinates. -/
theorem Coordinate.equal_congr {left right : Coordinate} (same : left.equal right = true)
    (other : Coordinate) : left.equal other = right.equal other := by
  rw [Bool.eq_iff_iff]
  constructor
  · intro leftEqual
    apply Coordinate.equal_trans _ leftEqual
    rwa [Coordinate.equal_comm]
  · intro rightEqual
    exact Coordinate.equal_trans same rightEqual

/-! ## The number of repeats -/

/-- How many coordinates of a ring are equal to the one before them. -/
def Ring.repeats (ring : Ring) : Nat :=
  (ring.zip ring.tail).countP fun neighbours => neighbours.1.equal neighbours.2

theorem Ring.repeats_cons_cons (first second : Coordinate) (rest : List Coordinate) :
    Ring.repeats (first :: second :: rest) =
      Ring.repeats (second :: rest) + if first.equal second then 1 else 0 := by
  rw [repeats, List.tail_cons, List.zip_cons_cons, List.countP_cons]
  rfl

/-- Behind a coordinate, all but the repeats are kept. The invariant is that the last kept
coordinate is equal to what its predecessor in the ring is equal to. -/
theorem length_dropRepeatsAfter {kept previous : Coordinate}
    (alike : ∀ other, kept.equal other = previous.equal other) (rest : List Coordinate) :
    (dropRepeatsAfter kept rest).length + Ring.repeats (previous :: rest) = rest.length := by
  induction rest generalizing kept previous with
  | nil => rfl
  | cons coordinate rest inductionHypothesis =>
      rw [dropRepeatsAfter, Ring.repeats_cons_cons, ← alike coordinate, List.length_cons]
      by_cases same : kept.equal coordinate = true
      · have onward := inductionHypothesis (Coordinate.equal_congr same)
        rw [if_pos same, if_pos same]
        omega
      · have onward := inductionHypothesis fun other => Eq.refl (coordinate.equal other)
        rw [if_neg same, if_neg same, List.length_cons]
        omega

theorem length_dropRepeats (ring : Ring) :
    (dropRepeats ring).length + ring.repeats = ring.length := by
  cases ring with
  | nil => rfl
  | cons first rest =>
      have behind := length_dropRepeatsAfter (fun other => Eq.refl (first.equal other)) rest
      rw [dropRepeats, List.length_cons, List.length_cons]
      omega

/-! ## The ends of a ring -/

theorem head?_dropRepeats (ring : Ring) : (dropRepeats ring).head? = ring.head? := by
  cases ring with
  | nil => rfl
  | cons first rest => rfl

/-- A last coordinate that is not kept itself is equal to the last one that is. -/
theorem exists_getLast?_dropRepeats {ring : Ring} {last : Coordinate}
    (isLast : ring.getLast? = some last) (finite : last.IsFinite) :
    ∃ kept, (dropRepeats ring).getLast? = some kept ∧ kept.equal last = true := by
  cases ring with
  | nil => cases isLast
  | cons first rest =>
      rw [List.getLast?_eq_getLast_of_ne_nil (List.cons_ne_nil _ _), Option.some.injEq] at isLast
      refine ⟨_, List.getLast?_eq_getLast_of_ne_nil (List.cons_ne_nil _ _), ?_⟩
      rcases getLast_dropRepeatsAfter first rest with same | equal
      · rw [same, isLast]
        exact finite.equal_self
      · rw [← isLast]
        exact equal

/-- A ring ends where it begins exactly if it does so without its repeats. -/
theorem isClosed_dropRepeats {ring : Ring} (finite : ∀ coordinate ∈ ring, coordinate.IsFinite) :
    Ring.isClosed (dropRepeats ring) = ring.isClosed := by
  cases isLast : ring.getLast? with
  | none =>
      rw [List.getLast?_eq_none_iff.1 isLast]
      rfl
  | some last =>
      obtain ⟨kept, isKept, same⟩ :=
        exists_getLast?_dropRepeats isLast (finite last (List.mem_of_getLast? isLast))
      unfold Ring.isClosed
      rw [head?_dropRepeats, isKept, isLast]
      cases ring.head? with
      | none => rfl
      | some first =>
          show first.equal kept = first.equal last
          rw [Coordinate.equal_comm, Coordinate.equal_congr same, Coordinate.equal_comm]

/-- What is left when exactly the repeats of a ring are removed: some of its coordinates in their
order, no two neighbours equal, fewer by the number of repeats, between the same ends. -/
structure Ring.IsWithoutRepeats (ring kept : Ring) : Prop where
  among : kept.Sublist ring
  apart : kept.IsChain Differs
  size : kept.length + ring.repeats = ring.length
  first : kept.head? = ring.head?
  last : ∀ last ∈ ring.getLast?, ∃ other ∈ kept.getLast?, other.equal last = true
  closed : kept.isClosed = ring.isClosed

theorem isWithoutRepeats_dropRepeats {ring : Ring}
    (finite : ∀ coordinate ∈ ring, coordinate.IsFinite) :
    ring.IsWithoutRepeats (dropRepeats ring) where
  among := by
    rw [dropRepeats_eq_destutter]
    exact List.destutter_sublist Differs ring
  apart := by
    rw [dropRepeats_eq_merged]
    exact ring.isChain_merged
  size := length_dropRepeats ring
  first := head?_dropRepeats ring
  last := fun last isLast =>
    exists_getLast?_dropRepeats isLast (finite last (List.mem_of_getLast? isLast))
  closed := isClosed_dropRepeats finite

/-! ## Repetitions in place -/

/-- A ring with each of its coordinates repeated in place as often as the number beside it says. -/
def Ring.stuttered (counted : List (Coordinate × Nat)) : Ring :=
  counted.flatMap fun entry => List.replicate (entry.2 + 1) entry.1

theorem Ring.stuttered_cons (coordinate : Coordinate) (times : Nat)
    (rest : List (Coordinate × Nat)) :
    Ring.stuttered ((coordinate, times) :: rest) =
      coordinate :: (List.replicate times coordinate ++ Ring.stuttered rest) := by
  rw [stuttered, List.flatMap_cons, List.replicate_succ]
  rfl

theorem equal_of_mem_replicate {first coordinate other : Coordinate} {times : Nat}
    (same : first.equal coordinate = true) (member : other ∈ List.replicate times coordinate) :
    first.equal other = true := by
  rw [(List.mem_replicate.1 member).2]
  exact same

theorem dropRepeatsAfter_stuttered {previous : Coordinate} {counted : List (Coordinate × Nat)}
    (finite : ∀ entry ∈ counted, entry.1.IsFinite) :
    dropRepeatsAfter previous (Ring.stuttered counted) =
      dropRepeatsAfter previous (counted.map Prod.fst) := by
  induction counted generalizing previous with
  | nil => rfl
  | cons entry rest inductionHypothesis =>
      obtain ⟨coordinate, times⟩ := entry
      have isFinite : coordinate.IsFinite := finite (coordinate, times) List.mem_cons_self
      have others := fun entry member => finite entry (List.mem_cons_of_mem _ member)
      rw [Ring.stuttered_cons, List.map_cons, dropRepeatsAfter, dropRepeatsAfter]
      by_cases same : previous.equal coordinate = true
      · rw [if_pos same, if_pos same,
          dropRepeatsAfter_append fun _ => equal_of_mem_replicate same,
          inductionHypothesis others]
      · rw [if_neg same, if_neg same,
          dropRepeatsAfter_append fun _ => equal_of_mem_replicate isFinite.equal_self,
          inductionHypothesis others]

theorem dropRepeats_stuttered {counted : List (Coordinate × Nat)}
    (finite : ∀ entry ∈ counted, entry.1.IsFinite) :
    dropRepeats (Ring.stuttered counted) = dropRepeats (counted.map Prod.fst) := by
  cases counted with
  | nil => rfl
  | cons entry rest =>
      obtain ⟨coordinate, times⟩ := entry
      have isFinite : coordinate.IsFinite := finite (coordinate, times) List.mem_cons_self
      rw [Ring.stuttered_cons, List.map_cons, dropRepeats, dropRepeats,
        dropRepeatsAfter_append fun _ => equal_of_mem_replicate isFinite.equal_self,
        dropRepeatsAfter_stuttered fun entry member => finite entry (List.mem_cons_of_mem _ member)]

/-- **Exactly the repeats of a ring are removed.** Of a ring of finite coordinates some are left in
their order, so that no two neighbours are equal, as many are missing as are equal to the one before
them, and the ring begins and ends, and closes or not, as it did. Removing repeats once more, or
from the ring with its coordinates repeated in place, leaves the same. -/
theorem exactly_repeats_are_removed {ring : Ring}
    (finite : ∀ coordinate ∈ ring, coordinate.IsFinite) :
    ring.IsWithoutRepeats (dropRepeats ring) ∧
      dropRepeats (dropRepeats ring) = dropRepeats ring ∧
      ∀ counted : List (Coordinate × Nat), counted.map Prod.fst = ring →
        dropRepeats (Ring.stuttered counted) = dropRepeats ring := by
  refine ⟨isWithoutRepeats_dropRepeats finite, dropRepeats_dropRepeats ring, ?_⟩
  rintro counted rfl
  apply dropRepeats_stuttered
  intro entry member
  exact finite entry.1 (List.mem_map_of_mem member)

end Geometry

namespace Observations

open FacetedSearch.Geometry

def corner (x y : Nat) : Coordinate :=
  ⟨Floating.ofNat false x, Floating.ofNat false y⟩

/-- The point where the axes meet, seen from below. -/
def lowerOrigin : Coordinate :=
  ⟨Floating.ofNat false 0, Floating.ofNat true 0⟩

/-- A ring with both zeros where it begins, and with the other one where it ends. -/
def zeroRing : Ring :=
  [corner 0 0, lowerOrigin, corner 4 0, corner 4 4, corner 4 4, corner 4 4, lowerOrigin]

theorem exactly_repeats_are_removed_zeroRing :
    (∀ coordinate ∈ zeroRing, coordinate.IsFinite) ∧ zeroRing.repeats = 3 ∧
      zeroRing.IsWithoutRepeats [corner 0 0, corner 4 0, corner 4 4, lowerOrigin] ∧
      dropRepeats (Ring.stuttered (zeroRing.zip (List.range 7))) = dropRepeats zeroRing := by
  have finite : ∀ coordinate ∈ zeroRing, coordinate.IsFinite := by
    decide +kernel
  obtain ⟨isWithoutRepeats, -, inPlace⟩ := exactly_repeats_are_removed finite
  have left : dropRepeats zeroRing = [corner 0 0, corner 4 0, corner 4 4, lowerOrigin] := by
    decide +kernel
  rw [left] at isWithoutRepeats
  exact ⟨finite, by decide +kernel, isWithoutRepeats, inPlace _ rfl⟩

end Observations

end FacetedSearch
