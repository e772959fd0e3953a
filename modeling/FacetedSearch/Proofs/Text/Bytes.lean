import Mathlib.Order.Defs.LinearOrder
import Mathlib.Tactic.SplitIfs

/-!
Contract: the order of texts by their bytes in UTF-8.

Owns:
- `bytes`, the bytes of a text, and `BytesBefore`, the order of texts by their bytes;
- `bytesBefore_iff`: it is the order of texts by their characters.

Does not own: other encodings.
-/

namespace FacetedSearch.Text

/-- The bytes of a text in UTF-8. -/
def bytes (text : String) : List UInt8 :=
  text.toUTF8.data.toList

/-- Whether a text stands before another one in the order of their bytes. -/
def BytesBefore (left right : String) : Prop :=
  bytes left < bytes right

theorem bytes_eq (text : String) : bytes text = text.toList.flatMap String.utf8EncodeChar := by
  rw [bytes, String.toUTF8_eq_toByteArray, ← String.utf8Encode_toList, List.utf8Encode,
    List.toList_data_toByteArray]

/-! ## Bytes of characters -/

/-- A smaller character has smaller bytes, whatever follows it. -/
theorem utf8EncodeChar_append_lt {c d : Char} (less : c < d) (left right : List UInt8) :
    String.utf8EncodeChar c ++ left < String.utf8EncodeChar d ++ right := by
  have below : c.val.toNat < d.val.toNat := less
  have valid : d.val.toNat < 0x110000 := by
    rcases d.valid with low | high <;> omega
  -- A byte behind the first one holds six bits: linear arithmetic follows one such step at a time.
  have twoSteps (number : Nat) : number / 4096 = number / 64 / 64 := by omega
  have threeSteps (number : Nat) : number / 262144 = number / 64 / 64 / 64 := by omega
  have fits {number : Nat} (small : number < 256) : number % 2 ^ 8 = number :=
    Nat.mod_eq_of_lt small
  unfold String.utf8EncodeChar
  dsimp only
  generalize c.val.toNat = first at below
  generalize d.val.toNat = second at below valid
  split_ifs <;>
    simp (disch := omega) only [List.cons_append, List.nil_append, List.cons_lt_cons_iff,
      UInt8.lt_iff_toNat_lt, ← UInt8.toNat_inj, UInt8.toNat_ofNat', twoSteps, threeSteps, fits] <;>
    omega

/-! ## Bytes of texts -/

theorem append_lt_append {left right : List UInt8} (less : left < right) (front : List UInt8) :
    front ++ left < front ++ right := by
  induction front with
  | nil => exact less
  | cons byte front inductionHypothesis =>
      exact List.cons_lt_cons_iff.2 (.inr ⟨rfl, inductionHypothesis⟩)

theorem flatMap_utf8EncodeChar_lt {left right : List Char} (less : left < right) :
    left.flatMap String.utf8EncodeChar < right.flatMap String.utf8EncodeChar := by
  induction left generalizing right with
  | nil =>
      cases right with
      | nil => cases less
      | cons d right =>
          obtain ⟨byte, others, isCode⟩ :=
            List.exists_cons_of_ne_nil (String.utf8EncodeChar_ne_nil (c := d))
          rw [List.flatMap_cons, isCode]
          exact List.nil_lt_cons _ _
  | cons c left inductionHypothesis =>
      cases right with
      | nil => cases less
      | cons d right =>
          rw [List.flatMap_cons, List.flatMap_cons]
          rcases List.cons_lt_cons_iff.1 less with smaller | ⟨rfl, later⟩
          · exact utf8EncodeChar_append_lt smaller _ _
          · exact append_lt_append (inductionHypothesis later) _

theorem BytesBefore.of_lt {left right : String} (less : left < right) : BytesBefore left right := by
  rw [BytesBefore, bytes_eq, bytes_eq]
  exact flatMap_utf8EncodeChar_lt less

/-- The order of bytes is that of characters. -/
theorem bytesBefore_iff {left right : String} : BytesBefore left right ↔ left < right := by
  constructor
  · intro before
    by_contra notLess
    by_cases greater : right < left
    · exact List.lt_asymm before (BytesBefore.of_lt greater)
    · rw [String.le_antisymm (String.not_lt.1 greater) (String.not_lt.1 notLess)] at before
      exact List.lt_irrefl _ before
  · exact .of_lt

end FacetedSearch.Text
