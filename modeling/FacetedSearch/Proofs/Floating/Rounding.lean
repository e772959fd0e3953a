import FacetedSearch.Floating.Rounding
import Mathlib.Tactic.Ring
import Mathlib.Tactic.Linarith

/-!
Contract: which ratios are rounded to which codes.

Owns:
- `roundedQuotient_eq`: a quotient is rounded to an integer that is at most a half away, and to an
  even one from both halves;
- `Format.units_eq` and `Format.exists_significand`: codes by their significands and shifts;
- `Format.RoundsTo`, the interval of the ratios that round to a code, and `Format.nearest_eq`: these
  ratios are rounded to the code.

The interval reaches to the midpoints to both neighbours, and includes them for even codes. Below a
power of two codes lie half as far apart as above it.

Does not own: decimals.
-/

namespace FacetedSearch.Floating

/-! ## Quotients -/

theorem roundedQuotient_eq {numerator denominator integer : Nat} (positive : 0 < denominator)
    (atLeast : 2 * (integer * denominator) ≤ 2 * numerator + denominator)
    (atMost : 2 * numerator ≤ 2 * (integer * denominator) + denominator)
    (odd : integer % 2 = 1 → 2 * (integer * denominator) < 2 * numerator + denominator ∧
      2 * numerator < 2 * (integer * denominator) + denominator) :
    roundedQuotient numerator denominator = integer := by
  have division := Nat.div_add_mod numerator denominator
  have below := Nat.mod_lt numerator positive
  unfold roundedQuotient
  generalize numerator / denominator = whole at division ⊢
  generalize numerator % denominator = rest at division below ⊢
  rw [Nat.mul_comm] at division
  have wholeLe : whole ≤ integer := by
    by_contra above
    have beyond : (integer + 1) * denominator ≤ whole * denominator :=
      Nat.mul_le_mul_right denominator (by omega)
    rw [Nat.add_mul] at beyond
    omega
  have leWhole : integer ≤ whole + 1 := by
    by_contra above
    have beyond : (whole + 2) * denominator ≤ integer * denominator :=
      Nat.mul_le_mul_right denominator (by omega)
    rw [Nat.add_mul] at beyond
    omega
  obtain rfl | rfl : integer = whole ∨ integer = whole + 1 := by omega
  · grind
  · rw [Nat.add_mul] at atLeast atMost odd
    grind

/-! ## Significands -/

namespace Format

variable (format : Format)

/-- The code with a significand and a shift has the value of the significand, shifted. -/
theorem units_eq {shift significand : Nat}
    (normal : shift = 0 ∨ 2 ^ format.fractionBits ≤ significand)
    (atMost : significand ≤ 2 * 2 ^ format.fractionBits) :
    format.units (shift * 2 ^ format.fractionBits + significand) = significand * 2 ^ shift := by
  have positive : 0 < 2 ^ format.fractionBits := Nat.two_pow_pos _
  simp only [units, Nat.pow_eq]
  generalize 2 ^ format.fractionBits = width at *
  rw [Nat.mul_comm shift width, Nat.mul_add_div positive]
  rcases Nat.lt_or_ge significand width with subnormal | isNormal
  · obtain rfl : shift = 0 := by omega
    simp [Nat.div_eq_of_lt subnormal]
  · rcases Nat.lt_or_ge significand (2 * width) with within | beyond
    · have one : significand / width = 1 :=
        Nat.div_eq_of_lt_le (by omega) (by omega)
      rw [one, Nat.add_sub_cancel, Nat.mul_comm width shift, Nat.add_sub_cancel_left]
    · obtain rfl : significand = 2 * width := Nat.le_antisymm atMost beyond
      have whole : width * shift + 2 * width - (shift + 2 - 1) * width = width := by
        rw [show shift + 2 - 1 = shift + 1 from rfl, Nat.add_mul, Nat.mul_comm width shift]
        omega
      rw [Nat.mul_div_cancel _ positive, whole, show shift + 2 - 1 = shift + 1 from rfl,
        Nat.pow_succ]
      ring

theorem exists_significand (code : Nat) :
    ∃ shift significand, code = shift * 2 ^ format.fractionBits + significand ∧
      (shift = 0 ∨ 2 ^ format.fractionBits ≤ significand) ∧
      significand < 2 * 2 ^ format.fractionBits := by
  have positive : 0 < 2 ^ format.fractionBits := Nat.two_pow_pos _
  generalize 2 ^ format.fractionBits = width at *
  have division := Nat.div_add_mod code width
  have below := Nat.mod_lt code positive
  cases whole : code / width with
  | zero =>
      rw [whole] at division
      exact ⟨0, code, by omega, .inl rfl, by omega⟩
  | succ shift =>
      rw [whole, Nat.mul_add, Nat.mul_comm width shift] at division
      exact ⟨shift, width + code % width, by omega, .inr (by omega), by omega⟩

theorem units_succ (code : Nat) : format.units code < format.units (code + 1) := by
  obtain ⟨shift, significand, rfl, normal, below⟩ := format.exists_significand code
  rw [Nat.add_assoc, format.units_eq normal (by omega), format.units_eq (by omega) (by omega)]
  exact Nat.mul_lt_mul_of_pos_right (by omega) (Nat.two_pow_pos shift)

/-- Unless the significand is the least one of its shift, the predecessor is a whole step below. -/
theorem units_pred {shift significand : Nat} (notZero : significand ≠ 0)
    (notLeast : shift = 0 ∨ 2 ^ format.fractionBits < significand)
    (below : significand < 2 * 2 ^ format.fractionBits) :
    format.units (shift * 2 ^ format.fractionBits + significand - 1) =
      (significand - 1) * 2 ^ shift := by
  rw [Nat.add_sub_assoc (by omega)]
  exact format.units_eq (by omega) (by omega)

/-- The predecessor of a power of two is half a step below. -/
theorem units_pred_of_power (shift : Nat) :
    format.units ((shift + 1) * 2 ^ format.fractionBits + 2 ^ format.fractionBits - 1) =
      (2 * 2 ^ format.fractionBits - 1) * 2 ^ shift := by
  have positive : 0 < 2 ^ format.fractionBits := Nat.two_pow_pos _
  rw [Nat.add_mul, Nat.one_mul, Nat.add_assoc, ← Nat.two_mul, Nat.add_sub_assoc (by omega)]
  exact format.units_eq (by omega) (by omega)

/-! ## Rounding -/

/-- A ratio of least units between the midpoints to the neighbours of a code. -/
structure RoundsTo (code numerator denominator : Nat) : Prop where
  atLeast : (format.units (code - 1) + format.units code) * denominator ≤ 2 * numerator
  atMost : 2 * numerator ≤ (format.units code + format.units (code + 1)) * denominator
  odd : code % 2 = 1 →
    (format.units (code - 1) + format.units code) * denominator < 2 * numerator ∧
      2 * numerator < (format.units code + format.units (code + 1)) * denominator

variable {format}

/-- The shift of a ratio is that of the power of two below it. -/
theorem log2_sub_eq {numerator denominator shift : Nat} (positive : 0 < denominator)
    (below : numerator < 2 * 2 ^ format.fractionBits * 2 ^ shift * denominator)
    (above : shift = 0 ∨ 2 ^ format.fractionBits * 2 ^ shift * denominator ≤ numerator) :
    (numerator / denominator).log2 - format.fractionBits = shift := by
  have quotientBelow : numerator / denominator < 2 ^ (format.fractionBits + shift + 1) := by
    rw [Nat.div_lt_iff_lt_mul positive, Nat.pow_succ, Nat.pow_add]
    linarith
  rcases Nat.eq_zero_or_pos (numerator / denominator) with isZero | notZero
  · rw [isZero]
    rcases above with rfl | above
    · exact Nat.zero_sub _
    · have quotientAbove := (Nat.le_div_iff_mul_le positive).2 above
      rw [isZero, ← Nat.pow_add] at quotientAbove
      exact absurd quotientAbove (Nat.not_le.2 (Nat.two_pow_pos _))
  · have logBelow := (Nat.log2_lt (by omega)).2 quotientBelow
    rcases above with rfl | above
    · omega
    · have quotientAbove := (Nat.le_div_iff_mul_le positive).2 above
      rw [← Nat.pow_add] at quotientAbove
      have logAbove := (Nat.le_log2 (by omega)).2 quotientAbove
      omega

/-- A ratio is rounded to the nearest multiple of the step that its shift gives. -/
theorem nearest_eq_of_step {numerator denominator shift significand step : Nat}
    (isStep : step = 2 ^ shift * denominator) (positive : 0 < denominator)
    (below : numerator < 2 * 2 ^ format.fractionBits * step)
    (above : shift = 0 ∨ 2 ^ format.fractionBits * step ≤ numerator)
    (atLeast : 2 * (significand * step) ≤ 2 * numerator + step)
    (atMost : 2 * numerator ≤ 2 * (significand * step) + step)
    (odd : significand % 2 = 1 → 2 * (significand * step) < 2 * numerator + step ∧
      2 * numerator < 2 * (significand * step) + step) :
    format.nearest numerator denominator =
      shift * 2 ^ format.fractionBits + significand := by
  have stepPositive : 0 < step := by
    rw [isStep]
    exact Nat.mul_pos (Nat.two_pow_pos shift) positive
  have isShift : (numerator / denominator).log2 - format.fractionBits = shift := by
    apply log2_sub_eq positive
    · rwa [Nat.mul_assoc (2 * 2 ^ format.fractionBits), ← isStep]
    · rwa [Nat.mul_assoc, ← isStep]
  simp only [nearest, Nat.pow_eq]
  rw [isShift, Nat.mul_comm denominator, ← isStep,
    roundedQuotient_eq stepPositive atLeast atMost odd]

variable {shift significand numerator denominator : Nat}

/-- A code is as even as its significand. -/
theorem parity_eq (fraction : 1 ≤ format.fractionBits) (shift significand : Nat) :
    (shift * 2 ^ format.fractionBits + significand) % 2 = significand % 2 := by
  have isEven : 2 ^ format.fractionBits % 2 = 0 := by
    obtain ⟨fewer, isSucc⟩ := Nat.exists_eq_add_of_le' fraction
    rw [isSucc, Nat.pow_succ]
    exact Nat.mul_mod_left _ 2
  rw [Nat.add_mod, Nat.mul_mod, isEven, Nat.mul_zero, Nat.zero_mod, Nat.zero_add, Nat.mod_mod]

/-- Below a power of two steps are half as wide, and the power is an even multiple of them. -/
theorem nearest_eq_of_power (positive : 0 < denominator)
    (rounds : format.RoundsTo
      ((shift + 1) * 2 ^ format.fractionBits + 2 ^ format.fractionBits) numerator denominator)
    (beneath : numerator < 2 ^ format.fractionBits * (2 ^ (shift + 1) * denominator)) :
    format.nearest numerator denominator =
      (shift + 1) * 2 ^ format.fractionBits + 2 ^ format.fractionBits := by
  have atLeast := rounds.atLeast
  rw [format.units_pred_of_power, format.units_eq (.inr (Nat.le_refl _)) (by omega)] at atLeast
  obtain ⟨half, isHalf⟩ : ∃ half, half = 2 ^ shift * denominator := ⟨_, rfl⟩
  have split : (shift + 1) * 2 ^ format.fractionBits + 2 ^ format.fractionBits =
      shift * 2 ^ format.fractionBits + 2 * 2 ^ format.fractionBits := by
    rw [Nat.add_mul]
    omega
  rw [split]
  have widthPositive : 0 < 2 ^ format.fractionBits := Nat.two_pow_pos _
  have halfLe : half ≤ 2 ^ format.fractionBits * half := Nat.le_mul_of_pos_left half widthPositive
  have doubled : 2 * 2 ^ format.fractionBits * half = 2 * (2 ^ format.fractionBits * half) :=
    Nat.mul_assoc _ _ _
  have whole : 2 ^ format.fractionBits * (2 ^ (shift + 1) * denominator) =
      2 * (2 ^ format.fractionBits * half) := by
    rw [isHalf, Nat.pow_succ]
    ring
  have midpoint : ((2 * 2 ^ format.fractionBits - 1) * 2 ^ shift +
      2 ^ format.fractionBits * 2 ^ (shift + 1)) * denominator + half =
        4 * (2 ^ format.fractionBits * half) := by
    obtain ⟨fewer, isSucc⟩ := Nat.exists_eq_add_of_le' widthPositive
    rw [isSucc, isHalf, Nat.pow_succ, show 2 * (fewer + 1) - 1 = 2 * fewer + 1 by omega]
    ring
  apply nearest_eq_of_step isHalf positive
  · omega
  · omega
  · omega
  · omega
  · omega

/-- The interval of a code, counted in its steps, unless the code is a power of two and the ratio
lies below it. -/
theorem RoundsTo.steps (rounds : format.RoundsTo
      (shift * 2 ^ format.fractionBits + significand) numerator denominator)
    (normal : shift = 0 ∨ 2 ^ format.fractionBits ≤ significand)
    (below : significand < 2 * 2 ^ format.fractionBits)
    {step : Nat} (isStep : step = 2 ^ shift * denominator) :
    2 * numerator ≤ 2 * (significand * step) + step ∧
      ((shift * 2 ^ format.fractionBits + significand) % 2 = 1 →
        2 * numerator < 2 * (significand * step) + step) ∧
      (significand ≠ 0 → (shift = 0 ∨ 2 ^ format.fractionBits < significand) →
        2 * (significand * step) ≤ 2 * numerator + step ∧
          ((shift * 2 ^ format.fractionBits + significand) % 2 = 1 →
            2 * (significand * step) < 2 * numerator + step)) := by
  obtain ⟨atLeast, atMost, odd⟩ := rounds
  have unitsSucc : format.units (shift * 2 ^ format.fractionBits + significand + 1) =
      (significand + 1) * 2 ^ shift := by
    rw [Nat.add_assoc]
    exact format.units_eq (by omega) (by omega)
  have above : (significand * 2 ^ shift + (significand + 1) * 2 ^ shift) * denominator =
      2 * (significand * step) + step := by
    rw [isStep]
    ring
  rw [format.units_eq normal (Nat.le_of_lt below), unitsSucc, above] at atMost odd
  rw [format.units_eq normal (Nat.le_of_lt below)] at atLeast
  refine ⟨atMost, fun isOdd => (odd isOdd).2, fun notZero notLeast => ?_⟩
  rw [format.units_pred notZero notLeast below] at atLeast odd
  have beneath : ((significand - 1) * 2 ^ shift + significand * 2 ^ shift) * denominator + step =
      2 * (significand * step) := by
    obtain ⟨fewer, rfl⟩ := Nat.exists_eq_succ_of_ne_zero notZero
    rw [isStep, Nat.succ_sub_one, Nat.succ_eq_add_one]
    ring
  constructor
  · omega
  · intro isOdd
    have strict := (odd isOdd).1
    omega

/-- The ratios between the midpoints to the neighbours of a code are rounded to the code. -/
theorem nearest_eq {code : Nat} (fraction : 1 ≤ format.fractionBits)
    (positive : 0 < denominator) (rounds : format.RoundsTo code numerator denominator) :
    format.nearest numerator denominator = code := by
  obtain ⟨shift, significand, rfl, normal, below⟩ := format.exists_significand code
  obtain ⟨step, isStep⟩ : ∃ step, step = 2 ^ shift * denominator := ⟨_, rfl⟩
  have stepPositive : 0 < step := by
    rw [isStep]
    exact Nat.mul_pos (Nat.two_pow_pos shift) positive
  obtain ⟨atMost, oddAtMost, inner⟩ := rounds.steps normal below isStep
  rw [parity_eq fraction] at oddAtMost inner
  by_cases inBinade : shift = 0 ∨ 2 ^ format.fractionBits * step ≤ numerator
  · -- The least significand has no whole step below it, but then the ratio is not below the code.
    have atLeast : 2 * (significand * step) ≤ 2 * numerator + step ∧
        (significand % 2 = 1 → 2 * (significand * step) < 2 * numerator + step) := by
      by_cases isZero : significand = 0
      · rw [isZero]
        omega
      · by_cases notLeast : shift = 0 ∨ 2 ^ format.fractionBits < significand
        · exact inner isZero notLeast
        · obtain rfl : significand = 2 ^ format.fractionBits := by omega
          omega
    have upper : (significand + 1) * step ≤ 2 * 2 ^ format.fractionBits * step :=
      Nat.mul_le_mul_right step below
    rw [Nat.add_mul] at upper
    apply nearest_eq_of_step isStep positive
    · omega
    · exact inBinade
    · exact atLeast.1
    · exact atMost
    · exact fun isOdd => ⟨atLeast.2 isOdd, oddAtMost isOdd⟩
  · -- Only the interval of a power of two reaches below the power.
    obtain ⟨notFirst, beneath⟩ : shift ≠ 0 ∧ numerator < 2 ^ format.fractionBits * step := by
      omega
    obtain rfl : significand = 2 ^ format.fractionBits := by
      by_contra notLeast
      have whole := (inner (by omega) (.inr (by omega))).1
      have next : (2 ^ format.fractionBits + 1) * step ≤ significand * step :=
        Nat.mul_le_mul_right step (by omega)
      rw [Nat.add_mul] at next
      omega
    obtain ⟨shift, rfl⟩ := Nat.exists_eq_succ_of_ne_zero notFirst
    exact nearest_eq_of_power positive rounds (isStep ▸ beneath)

end Format

end FacetedSearch.Floating
