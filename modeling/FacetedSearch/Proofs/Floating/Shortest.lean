import FacetedSearch.Floating.Shortest
import FacetedSearch.Proofs.Floating.Rounding

/-!
Contract: the decimal that is written for a code rounds to the code.

Owns:
- `Format.DecimalRoundsTo`, a decimal among the reals that round to a code, which is what
  `Format.identifies` decides;
- `Format.shortest_rounds`: the decimal that is found on a grid is such a decimal, the exact one is,
  and zeros at the end of its digits do not matter;
- `ofDecimal_eq`: such a decimal is rounded to the code.

Does not own: that no decimal with fewer digits is, and the texts of decimals.
-/

namespace FacetedSearch.Floating

namespace Format

variable {format : Format} {code : Nat}

theorem roundsTo_mul_iff {numerator denominator factor : Nat} (positive : 0 < factor) :
    format.RoundsTo code (numerator * factor) (denominator * factor) ↔
      format.RoundsTo code numerator denominator := by
  have le_iff (left right : Nat) : left * factor ≤ right * factor ↔ left ≤ right :=
    Nat.mul_le_mul_right_iff positive
  have lt_iff (left right : Nat) : left * factor < right * factor ↔ left < right :=
    Nat.mul_lt_mul_right positive
  constructor
  · rintro ⟨atLeast, atMost, odd⟩
    simp only [← Nat.mul_assoc, le_iff, lt_iff] at atLeast atMost odd
    exact ⟨atLeast, atMost, odd⟩
  · rintro ⟨atLeast, atMost, odd⟩
    constructor
    · rwa [← Nat.mul_assoc, ← Nat.mul_assoc, le_iff]
    · rwa [← Nat.mul_assoc, ← Nat.mul_assoc, le_iff]
    · simpa only [← Nat.mul_assoc, lt_iff] using odd

variable (format) in
/-- A decimal among the reals that round to a code. -/
def DecimalRoundsTo (code : Nat) (decimal : Decimal) : Prop :=
  format.RoundsTo code (decimal.digits * 10 ^ decimal.exponent.toNat * 2 ^ format.bottom)
    (10 ^ (-decimal.exponent).toNat)

variable {decimal : Decimal}

theorem identifies_iff : format.identifies code decimal = true ↔
    format.DecimalRoundsTo code decimal := by
  have halfUnits : decimal.halfUnits format =
      (2 * (decimal.digits * 10 ^ decimal.exponent.toNat * 2 ^ format.bottom),
        10 ^ (-decimal.exponent).toNat) := by
    simp only [Decimal.halfUnits, Nat.pow_eq, Nat.mul_assoc]
  unfold identifies DecimalRoundsTo
  rw [halfUnits]
  dsimp only
  split
  · rename_i isEven
    simp only [Bool.and_eq_true, decide_eq_true_eq]
    exact ⟨fun within => ⟨within.1, within.2, by omega⟩,
      fun rounds => ⟨rounds.atLeast, rounds.atMost⟩⟩
  · rename_i isOdd
    simp only [Bool.and_eq_true, decide_eq_true_eq]
    exact ⟨fun within => ⟨by omega, by omega, fun _ => within⟩,
      fun rounds => rounds.odd (by omega)⟩

theorem identifies_of_onGrid? {tie : Tie} {exponent : Int}
    (found : format.onGrid? tie code exponent = some decimal) :
    format.identifies code decimal = true := by
  unfold onGrid? at found
  dsimp only at found
  split at found
  · cases found
  · cases found
    assumption
  · cases found
    assumption
  · rename_i below above
    split at found
    · cases found
      exact below
    · split at found
      · cases found
        exact above
      · cases tie with
        | upward =>
            cases found
            exact above
        | toEven =>
            dsimp only at found
            split at found
            · cases found
              exact below
            · cases found
              exact above

/-- The exact value of a code lies strictly between those of its neighbours. -/
theorem exact_rounds (notZero : code ≠ 0) : format.DecimalRoundsTo code (format.exact code) := by
  have pred := format.units_succ (code - 1)
  have succ := format.units_succ code
  rw [Nat.sub_add_cancel (Nat.one_le_iff_ne_zero.2 notZero)] at pred
  have ofUnits : format.RoundsTo code (format.units code) 1 := by
    constructor
    · omega
    · omega
    · omega
  have power : (5 : Nat) ^ format.bottom * 2 ^ format.bottom = 10 ^ format.bottom := by
    rw [← Nat.mul_pow]
  have value : format.units code * 5 ^ format.bottom * 10 ^ (-(format.bottom : Int)).toNat *
      2 ^ format.bottom = format.units code * 10 ^ format.bottom := by
    rw [Int.toNat_neg_natCast, Nat.pow_zero, Nat.mul_one, Nat.mul_assoc, power]
  have scale : (10 : Nat) ^ (- -(format.bottom : Int)).toNat = 1 * 10 ^ format.bottom := by
    rw [Int.neg_neg, Int.toNat_natCast, Nat.one_mul]
  unfold DecimalRoundsTo exact
  simp only [Nat.pow_eq]
  rw [value, scale]
  exact (roundsTo_mul_iff (Nat.pow_pos (by decide))).2 ofUnits

theorem dropZeros_rounds (limit : Nat) {decimal : Decimal}
    (rounds : format.DecimalRoundsTo code decimal) :
    format.DecimalRoundsTo code (decimal.dropZeros limit) := by
  induction limit generalizing decimal with
  | zero => exact rounds
  | succ limit inductionHypothesis =>
      rw [Decimal.dropZeros]
      split
      · rename_i endsInZero
        simp only [Bool.and_eq_true, decide_eq_true_eq] at endsInZero
        apply inductionHypothesis
        obtain ⟨digits, exponent⟩ := decimal
        dsimp only at endsInZero
        have tenfold : digits = digits / 10 * 10 := by
          have division := Nat.div_add_mod digits 10
          omega
        unfold DecimalRoundsTo at rounds ⊢
        dsimp only at rounds ⊢
        by_cases whole : 0 ≤ exponent
        · have power : (exponent + 1).toNat = exponent.toNat + 1 := by omega
          have noFraction : (-(exponent + 1)).toNat = (-exponent).toNat := by omega
          rw [power, noFraction, Nat.pow_succ, Nat.mul_comm (10 ^ exponent.toNat), ← Nat.mul_assoc,
            ← tenfold]
          exact rounds
        · have power : (exponent + 1).toNat = exponent.toNat := by omega
          have fraction : (-exponent).toNat = (-(exponent + 1)).toNat + 1 := by omega
          rw [fraction, Nat.pow_succ, tenfold, Nat.mul_right_comm _ 10, Nat.mul_right_comm _ 10,
            roundsTo_mul_iff (by decide)] at rounds
          rw [power]
          exact rounds
      · exact rounds

/-- The decimal that is written for a code rounds to the code. -/
theorem shortest_rounds (tie : Tie) (notZero : code ≠ 0) :
    format.DecimalRoundsTo code (format.shortest tie code) := by
  apply dropZeros_rounds
  cases found : (format.gridExponents code).findSome? fun exponent =>
      format.onGrid? tie code exponent with
  | none => exact exact_rounds notZero
  | some decimal =>
      obtain ⟨exponent, -, onGrid⟩ := List.exists_of_findSome?_eq_some found
      exact identifies_iff.1 (identifies_of_onGrid? onGrid)

/-- A decimal that rounds to a code other than zero has at least half the value of the first one. -/
theorem DecimalRoundsTo.half_le (notZero : code ≠ 0) (rounds : format.DecimalRoundsTo code decimal) :
    10 ^ (-decimal.exponent).toNat ≤
      2 * (decimal.digits * 10 ^ decimal.exponent.toNat * 2 ^ format.bottom) := by
  have pred := format.units_succ (code - 1)
  rw [Nat.sub_add_cancel (Nat.one_le_iff_ne_zero.2 notZero)] at pred
  refine Nat.le_trans (Nat.le_mul_of_pos_left _ ?_) rounds.atLeast
  omega

end Format

variable {format : Format} {code digits : Nat} {exponent : Int}

/-- A decimal with at least half the value of the first code is not cut to zero. -/
theorem not_underflow
    (half : 10 ^ (-exponent).toNat ≤ 2 * (digits * 10 ^ exponent.toNat * 2 ^ format.bottom)) :
    ¬ digits.log2 + 1 + 3 * exponent ≤ -(format.bottom + 1 : Int) := by
  intro underflow
  have noPower : exponent.toNat = 0 := by omega
  rw [noPower, Nat.pow_zero, Nat.mul_one] at half
  have digitsBelow : digits < 2 ^ (digits.log2 + 1) := Nat.lt_log2_self
  have fits : digits.log2 + 1 + (format.bottom + 1) ≤ 3 * (-exponent).toNat := by omega
  generalize (-exponent).toNat = places at half fits
  have below : 2 * (digits * 2 ^ format.bottom) < 10 ^ places := by
    calc 2 * (digits * 2 ^ format.bottom)
        = digits * 2 ^ (format.bottom + 1) := by ring
      _ < 2 ^ (digits.log2 + 1) * 2 ^ (format.bottom + 1) :=
          Nat.mul_lt_mul_of_pos_right digitsBelow (Nat.two_pow_pos _)
      _ = 2 ^ (digits.log2 + 1 + (format.bottom + 1)) := (Nat.pow_add _ _ _).symm
      _ ≤ 2 ^ (3 * places) := Nat.pow_le_pow_right (by decide) fits
      _ = 8 ^ places := Nat.pow_mul 2 3 places
      _ ≤ 10 ^ places := Nat.pow_le_pow_left (by decide) places
  omega

/-- A decimal that rounds to a code is the number of the code. -/
theorem ofDecimal_eq (fraction : 1 ≤ format.fractionBits) (notZero : code ≠ 0) (negative : Bool)
    (rounds : format.DecimalRoundsTo code ⟨digits, exponent⟩) (notLarge : exponent ≤ 0) :
    (ofDecimal negative digits exponent : Floating format) = ofCode negative code := by
  have half := rounds.half_le notZero
  dsimp only at half
  have someDigits : digits ≠ 0 := by
    rintro rfl
    rw [Nat.zero_mul, Nat.zero_mul, Nat.mul_zero] at half
    exact absurd half (Nat.not_le.2 (Nat.pow_pos (by decide)))
  have notOverflow : ¬ exponent ≥ (Nat.pow 2 (format.exponentBits - 1) : Nat) := by
    have positive : 0 < 2 ^ (format.exponentBits - 1) := Nat.two_pow_pos _
    rw [Nat.pow_eq]
    omega
  unfold ofDecimal ofUnits
  rw [if_neg someDigits, if_neg notOverflow, if_neg (not_underflow half)]
  simp only [Nat.pow_eq]
  rw [Format.nearest_eq fraction (Nat.pow_pos (by decide)) rounds]

end FacetedSearch.Floating
