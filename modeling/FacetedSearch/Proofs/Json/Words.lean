import FacetedSearch.Json.Value

/-!
Contract: the values that are unsigned integers of 64 bits.

Owns:
- `word?_ofWord` and `word?_eq_some_iff`: a word is written in one way;
- `IsNoWord` and `word?_eq_none_iff`, the values that are no words.

Does not own: what words count.
-/

namespace FacetedSearch.Json.Value

theorem word?_ofWord (word : UInt64) : (ofWord word).word? = some word := by
  have upper := word.toNat_lt
  have inRange : (0 : Int) ≤ word.toNat ∧ (word.toNat : Int) ≤ Numeral.maxWord := by
    unfold Numeral.maxWord
    omega
  show Number.asWord? (.integer word.toNat) = some word
  rw [Number.asWord?, if_pos inRange, Int.toNat_natCast]
  simp

theorem word?_eq_some_iff {value : Value} {word : UInt64} :
    value.word? = some word ↔ value = .ofWord word := by
  constructor
  · intro isWord
    obtain ⟨number, isNumber, inRange⟩ := Option.bind_eq_some_iff.1 isWord
    cases value with
    | number written =>
        cases isNumber
        cases number with
        | integer count =>
            rw [Number.asWord?, Option.ite_none_right_eq_some] at inRange
            obtain ⟨⟨notNegative, notGreater⟩, same⟩ := inRange
            have small : count.toNat < 2 ^ 64 := by
              unfold Numeral.maxWord at notGreater
              omega
            have sameNumber : (word.toNat : Int) = count := by
              rw [← Option.some.inj same, Nat.toUInt64_eq, UInt64.toNat_ofNat_of_lt' small]
              omega
            rw [ofWord, ofNat, sameNumber]
        | floating count => cases inRange
    | _ => cases isNumber
  · rintro rfl
    exact word?_ofWord word

/-- A value that is no word. A number with a point or an exponent is none, even if it has no
fraction. -/
inductive IsNoWord : Value → Prop where
  | notNumeric {value : Value} (noNumber : value.number? = none) : IsNoWord value
  | fractional (count : Double) : IsNoWord (.number (.floating count))
  | negative {count : Int} (below : count < 0) : IsNoWord (.number (.integer count))
  | tooGreat {count : Int} (above : Numeral.maxWord < count) : IsNoWord (.number (.integer count))

theorem word?_integer_eq_none_iff (count : Int) :
    (Value.number (.integer count)).word? = none ↔ count < 0 ∨ Numeral.maxWord < count := by
  show Number.asWord? (.integer count) = none ↔ _
  rw [Number.asWord?, ite_eq_right_iff]
  simp only [reduceCtorEq, imp_false]
  omega

theorem word?_eq_none_iff {value : Value} : value.word? = none ↔ IsNoWord value := by
  constructor
  · intro noWord
    cases value with
    | number written =>
        cases written with
        | integer count =>
            rcases (word?_integer_eq_none_iff count).1 noWord with below | above
            · exact .negative below
            · exact .tooGreat above
        | floating count => exact .fractional count
    | _ => exact .notNumeric rfl
  · intro isNoWord
    cases isNoWord with
    | notNumeric noNumber => rw [word?, noNumber, Option.bind_none]
    | fractional count => rfl
    | negative below => exact (word?_integer_eq_none_iff _).2 (.inl below)
    | tooGreat above => exact (word?_integer_eq_none_iff _).2 (.inr above)

end FacetedSearch.Json.Value
