import FacetedSearch.Floating.Layout
import FacetedSearch.Floating.Literal
import FacetedSearch.Proofs.Floating.Shortest
import FacetedSearch.Proofs.Floating.Plain

/-!
Contract: numbers that are written out in full are read back.

Owns:
- `readUnsigned?_positionalDigits`: the decimal that digits with zeros or a point are read as;
- `readFloating?_finite`: the text of a finite number is read as the number, with its sign;
- `readFloating?_negativeInfinity`, the one other number whose text begins like a number.

A text names the decimal that was chosen for the number, which need not be its exact value: what
matters is that the decimal rounds to the number.

Does not own: the words for other numbers.
-/

namespace FacetedSearch.Floating

/-! ## Literals -/

theorem leadingDigits_append {digits rest : List Char} (each : ∀ c ∈ digits, c.isDigit = true)
    (stops : ∀ c ∈ rest.head?, c.isDigit = false) :
    leadingDigits (digits ++ rest) = (digits, rest) := by
  unfold leadingDigits
  rw [List.takeWhile_append_of_pos each, List.dropWhile_append_of_pos each]
  cases rest with
  | nil => simp
  | cons c rest =>
      have notDigit := stops c rfl
      rw [List.takeWhile_cons_of_neg (by simp [notDigit]),
        List.dropWhile_cons_of_neg (by simp [notDigit]), List.append_nil]

theorem toLower_of_isDigit {c : Char} (isDigit : c.isDigit = true) : c.toLower = c := by
  have bounds := toNat_of_isDigit isDigit
  unfold Char.toLower
  rw [dif_neg]
  rintro ⟨upper, -⟩
  have upperCode : 65 ≤ c.toNat := upper
  omega

variable {format : Format} {negative : Bool}

/-- A literal whose first character is a digit is no word. -/
theorem readUnsigned?_eq {whole rest : List Char} (areDigits : AreDigits whole)
    (stops : ∀ c ∈ rest.head?, c.isDigit = false) :
    (readUnsigned? negative (whole ++ rest) : Option (Floating format)) =
      (exponentValue? (fractionDigits rest).2).map fun exponent =>
        ofDecimal negative (Nat.ofDigitChars 10 (whole ++ (fractionDigits rest).1) 0)
          (exponent - (fractionDigits rest).1.length) := by
  have notWord {first : Char} {others : List Char} (notDigit : first.isDigit = false) :
      (whole ++ rest).map Char.toLower ≠ first :: others := by
    obtain ⟨c, digits, rfl⟩ := List.exists_cons_of_ne_nil areDigits.notEmpty
    have isDigit := areDigits.each c List.mem_cons_self
    intro same
    rw [List.cons_append, List.map_cons, toLower_of_isDigit isDigit] at same
    injection same with sameFirst
    rw [sameFirst, notDigit] at isDigit
    exact absurd isDigit (by decide)
  unfold readUnsigned?
  rw [if_neg (not_or.2 ⟨notWord (by decide), notWord (by decide)⟩), if_neg (notWord (by decide)),
    leadingDigits_append areDigits.each stops]
  have notEmpty : whole.isEmpty = false := List.isEmpty_eq_false_iff.2 areDigits.notEmpty
  simp [notEmpty]

theorem readUnsigned?_digits {whole : List Char} (areDigits : AreDigits whole) :
    (readUnsigned? negative whole : Option (Floating format)) =
      some (ofDecimal negative (Nat.ofDigitChars 10 whole 0) 0) := by
  have noRest : ∀ c ∈ ([] : List Char).head?, c.isDigit = false := by simp
  rw [← List.append_nil whole, readUnsigned?_eq areDigits noRest]
  simp [fractionDigits, exponentValue?]

theorem readUnsigned?_point {whole fraction : List Char} (areDigits : AreDigits whole)
    (each : ∀ c ∈ fraction, c.isDigit = true) :
    (readUnsigned? negative (whole ++ '.' :: fraction) : Option (Floating format)) =
      some (ofDecimal negative (Nat.ofDigitChars 10 (whole ++ fraction) 0)
        (-fraction.length)) := by
  have found : fractionDigits ('.' :: fraction) = (fraction, []) := by
    have leading : leadingDigits (fraction ++ []) = (fraction, []) :=
      leadingDigits_append each (by simp)
    rwa [List.append_nil] at leading
  have stops : ∀ c ∈ ('.' :: fraction).head?, c.isDigit = false := by
    intro c member
    cases member
    decide
  rw [readUnsigned?_eq areDigits stops, found]
  simp [exponentValue?]

section Positional

theorem isDigit_of_mem_zeros (count : Nat) : ∀ c ∈ List.replicate count '0', c.isDigit = true := by
  intro c member
  rw [(List.mem_replicate.1 member).2]
  decide

variable (digits : Nat)

theorem readUnsigned?_zerosBehind (count : Nat) :
    (readUnsigned? negative (Nat.toDigits 10 digits ++ List.replicate count '0') :
        Option (Floating format)) = some (ofDecimal negative (digits * 10 ^ count) 0) := by
  have areDigits := areDigits_toDigits digits
  have each : AreDigits (Nat.toDigits 10 digits ++ List.replicate count '0') :=
    ⟨List.append_ne_nil_of_left_ne_nil areDigits.notEmpty _,
      List.forall_mem_append.2 ⟨areDigits.each, isDigit_of_mem_zeros count⟩⟩
  rw [readUnsigned?_digits each, Nat.ofDigitChars_append, Nat.ofDigitChars_ten_toDigits,
    Nat.ofDigitChars_replicate_zero, Nat.mul_comm]

theorem readUnsigned?_pointInside {places : Nat} (fewer : places < (Nat.toDigits 10 digits).length) :
    (readUnsigned? negative
        ((Nat.toDigits 10 digits).take ((Nat.toDigits 10 digits).length - places) ++
          '.' :: (Nat.toDigits 10 digits).drop ((Nat.toDigits 10 digits).length - places)) :
        Option (Floating format)) = some (ofDecimal negative digits (-places)) := by
  have areDigits := areDigits_toDigits digits
  have front : AreDigits
      ((Nat.toDigits 10 digits).take ((Nat.toDigits 10 digits).length - places)) := by
    constructor
    · rw [ne_eq, List.take_eq_nil_iff, not_or]
      exact ⟨by omega, areDigits.notEmpty⟩
    · exact fun c member => areDigits.each c (List.mem_of_mem_take member)
  rw [readUnsigned?_point front fun c member => areDigits.each c (List.mem_of_mem_drop member),
    List.take_append_drop, Nat.ofDigitChars_ten_toDigits, List.length_drop]
  congr 3
  omega

theorem readUnsigned?_zerosBefore {places : Nat} (more : (Nat.toDigits 10 digits).length ≤ places) :
    (readUnsigned? negative
        (['0'] ++ '.' :: (List.replicate (places - (Nat.toDigits 10 digits).length) '0' ++
          Nat.toDigits 10 digits)) :
        Option (Floating format)) = some (ofDecimal negative digits (-places)) := by
  have front : AreDigits ['0'] := ⟨by decide, isDigit_of_mem_zeros 1⟩
  have behind : ∀ c ∈ List.replicate (places - (Nat.toDigits 10 digits).length) '0' ++
      Nat.toDigits 10 digits, c.isDigit = true :=
    List.forall_mem_append.2 ⟨isDigit_of_mem_zeros _, (areDigits_toDigits digits).each⟩
  have value : Nat.ofDigitChars 10 (['0'] ++
      (List.replicate (places - (Nat.toDigits 10 digits).length) '0' ++
        Nat.toDigits 10 digits)) 0 = digits := by
    rw [Nat.ofDigitChars_append, Nat.ofDigitChars_append, Nat.ofDigitChars_replicate_zero]
    exact Nat.ofDigitChars_ten_toDigits
  rw [readUnsigned?_point front behind, value, List.length_append, List.length_replicate,
    Nat.sub_add_cancel more]

/-- The decimal that a text without an exponent is read as: zeros behind the digits count as digits,
all other exponents are kept. -/
theorem readUnsigned?_positionalDigits (exponent : Int) :
    (readUnsigned? negative
        (plainLayout.positionalDigits (Nat.toDigits 10 digits) exponent) :
          Option (Floating format)) =
      some (if 0 ≤ exponent then ofDecimal negative (digits * 10 ^ exponent.toNat) 0
        else ofDecimal negative digits exponent) := by
  unfold Layout.positionalDigits
  by_cases whole : 0 ≤ exponent
  · rw [if_pos whole, if_pos whole, if_neg (by decide), List.append_nil,
      readUnsigned?_zerosBehind]
  · rw [if_neg whole, if_neg whole]
    have places : ((-exponent).toNat : Int) = -exponent := Int.toNat_of_nonneg (by omega)
    have isExponent : exponent = -((-exponent).toNat : Int) := by omega
    generalize (-exponent).toNat = count at isExponent ⊢
    rw [isExponent]
    dsimp only
    split
    · rename_i fewer
      exact readUnsigned?_pointInside digits fewer
    · rename_i more
      rw [List.append_assoc]
      exact readUnsigned?_zerosBefore digits (Nat.le_of_not_lt more)

end Positional

/-! ## Numbers -/

/-- A number without a sign begins with a digit. -/
theorem exists_head_positionalDigits (digits : Nat) (exponent : Int) :
    ∃ first rest, plainLayout.positionalDigits (Nat.toDigits 10 digits) exponent = first :: rest ∧
      first.isDigit = true := by
  have areDigits := areDigits_toDigits digits
  obtain ⟨first, rest, isDigits⟩ := List.exists_cons_of_ne_nil areDigits.notEmpty
  have isDigit : first.isDigit = true :=
    areDigits.each first (isDigits ▸ List.mem_cons_self)
  unfold Layout.positionalDigits
  split
  · rw [isDigits]
    exact ⟨first, _, rfl, isDigit⟩
  · dsimp only
    split
    · rename_i fewer
      obtain ⟨places, isPlaces⟩ :=
        Nat.exists_eq_add_of_lt fewer
      rw [isPlaces, isDigits, show (-exponent).toNat + places + 1 - (-exponent).toNat = places + 1
        by omega]
      exact ⟨first, _, rfl, isDigit⟩
    · exact ⟨'0', _, rfl, by decide⟩

/-- The text of a finite number without its sign. -/
def plainDigits (format : Format) (code : Nat) : List Char :=
  if code = 0 then plainLayout.renderDecimal ⟨0, 0⟩
  else plainLayout.renderDecimal (format.shortest plainLayout.tie code)

theorem renderChars_finite (code : Fin format.limit) :
    plainLayout.renderChars (.finite negative code) =
      (if negative then ['-'] else []) ++ plainDigits format code :=
  rfl

theorem exists_head_plainDigits (format : Format) (code : Nat) :
    ∃ first rest, plainDigits format code = first :: rest ∧ first.isDigit = true := by
  unfold plainDigits
  split
  · exact exists_head_positionalDigits 0 0
  · rw [renderDecimal_plain]
    exact exists_head_positionalDigits _ _

/-- The digits of a finite number are read as the number. -/
theorem readUnsigned?_plainDigits (negative : Bool) (fraction : 1 ≤ format.fractionBits)
    (code : Fin format.limit) :
    readUnsigned? negative (plainDigits format code) = some (.finite negative code) := by
  have isFinite : (ofCode negative code.val : Floating format) = .finite negative code :=
    dif_pos code.isLt
  rw [← isFinite, plainDigits, renderDecimal_plain, renderDecimal_plain]
  split
  · rename_i isZero
    rw [readUnsigned?_positionalDigits, isZero]
    rfl
  · rename_i notZero
    have rounds : format.DecimalRoundsTo code.val (format.shortest plainLayout.tie code.val) :=
      Format.shortest_rounds plainLayout.tie notZero
    generalize format.shortest plainLayout.tie code.val = decimal at rounds ⊢
    rw [readUnsigned?_positionalDigits]
    split
    · rename_i whole
      have noFraction : (-decimal.exponent).toNat = 0 := by omega
      have scaled : format.DecimalRoundsTo code.val
          ⟨decimal.digits * 10 ^ decimal.exponent.toNat, 0⟩ := by
        simpa [Format.DecimalRoundsTo, noFraction] using rounds
      rw [ofDecimal_eq fraction notZero negative scaled (Int.le_refl 0)]
    · rename_i notWhole
      rw [ofDecimal_eq fraction notZero negative rounds (by omega)]

/-- A literal without a sign is read as a positive one. -/
theorem readFloating?_cons {first : Char} {rest : List Char} (notMinus : first ≠ '-')
    (notPlus : first ≠ '+') :
    (readFloating? (first :: rest) : Option (Floating format)) =
      readUnsigned? false (first :: rest) := by
  unfold readFloating?
  split
  · rename_i same
    injection same with isMinus
    exact absurd isMinus notMinus
  · rename_i same
    injection same with isPlus
    exact absurd isPlus notPlus
  · rfl

/-- The text of a finite number is read as the number, with its sign. -/
theorem readFloating?_finite (fraction : 1 ≤ format.fractionBits) (negative : Bool)
    (code : Fin format.limit) :
    readFloating? (plainLayout.renderChars (.finite negative code)) =
      some (.finite negative code) := by
  have read := readUnsigned?_plainDigits negative fraction code
  rw [renderChars_finite]
  cases negative with
  | true => exact read
  | false =>
      obtain ⟨first, rest, isText, isDigit⟩ := exists_head_plainDigits format code.val
      rw [isText] at read
      rw [isText]
      have notSign : first ≠ '-' ∧ first ≠ '+' := by
        constructor
        · rintro rfl
          exact absurd isDigit (by decide)
        · rintro rfl
          exact absurd isDigit (by decide)
      exact (readFloating?_cons notSign.1 notSign.2).trans read

theorem readFloating?_negativeInfinity :
    (readFloating? (plainLayout.renderChars (.infinite true : Floating format)) :
      Option (Floating format)) = some (.infinite true) :=
  rfl

end FacetedSearch.Floating
