import FacetedSearch.Engine.Solr.FilterQuery
import FacetedSearch.Proofs.Engine.Solr.Grammar
import FacetedSearch.Proofs.Floating.Plain

/-!
Contract: values as atoms of filter expressions.

Owns:
- `unescaped`, the text that an escaped text stands for, and `unescaped_escape`;
- `escaped_escape`: escaped texts may stand between quotes, and without blanks on their own;
- the characters of the values that are written without quotes, as values and as bounds;
- what an atom says: a value, two bounds or a shape. A bound that is missing is the wildcard, a day
  is its text with the first or the last time of the day, and any other bound is the text of the
  value.

Does not own: statements and trees.
-/

namespace FacetedSearch

open FullText Text

/-! ## Values without quotes -/

theorem isValueCharacter_of_mem_toString {number : Int} {c : Char}
    (member : c ∈ (toString number).toList) : IsValueCharacter c := by
  have ofDigits (magnitude : Nat) {d : Char} (inDigits : d ∈ magnitude.repr.toList) :
      IsValueCharacter d := by
    rw [Nat.repr_eq_ofList_toDigits, String.toList_ofList] at inDigits
    exact isValueCharacter_of_isDigit ((areDigits_toDigits magnitude).each d inDigits)
  rw [Int.toString_eq_repr, Int.repr_eq_if] at member
  split at member
  · exact ofDigits _ member
  · rw [String.toList_append] at member
    rcases List.mem_append.1 member with isSign | inDigits
    · have sign : ∀ d ∈ "-".toList, IsValueCharacter d := forall_mem_of_all (by decide)
      exact sign c isSign
    · exact ofDigits _ inDigits

theorem toList_toString_ne_nil (number : Int) : (toString number).toList ≠ [] := by
  have ofDigits (magnitude : Nat) : magnitude.repr.toList ≠ [] := by
    rw [Nat.repr_eq_ofList_toDigits, String.toList_ofList]
    exact Nat.toDigits_ne_nil
  rw [Int.toString_eq_repr, Int.repr_eq_if]
  split
  · exact ofDigits _
  · rw [String.toList_append]
    exact List.append_ne_nil_of_right_ne_nil _ (ofDigits _)

theorem isValueCharacter_of_mem_padded {width value : Nat} {c : Char}
    (member : c ∈ Numeral.padded width value) : IsValueCharacter c := by
  rcases List.mem_append.1 member with isZero | inDigits
  · rw [(List.mem_replicate.1 isZero).2]
    decide
  · exact isValueCharacter_of_isDigit ((areDigits_toDigits value).each c inDigits)

theorem Calendar.Date.isValueCharacter_of_mem_chars {day : Calendar.Date} {c : Char}
    (member : c ∈ day.chars) : IsValueCharacter c := by
  simp only [chars, List.mem_append, List.mem_cons] at member
  rcases member with (inYear | rfl | inMonth) | rfl | inDay
  · exact isValueCharacter_of_mem_padded inYear
  · decide
  · exact isValueCharacter_of_mem_padded inMonth
  · decide
  · exact isValueCharacter_of_mem_padded inDay

theorem Calendar.Date.chars_ne_nil (day : Calendar.Date) : day.chars ≠ [] := by
  unfold chars
  exact List.append_ne_nil_of_right_ne_nil _ (List.cons_ne_nil _ _)

namespace Solr

/-- Values that stand without quotes are not empty and have the characters of values only. -/
structure IsBareText (text : List Char) : Prop where
  notEmpty : text ≠ []
  each : ∀ c ∈ text, IsValueCharacter c

theorem isBareText_asText {value : TypedValue} (bare : isQuoted value = false) :
    IsBareText value.asText.toList := by
  cases value with
  | text value => cases bare
  | keyword name => cases bare
  | uuid uuid => cases bare
  | boolean value =>
      cases value with
      | false => exact ⟨by decide, forall_mem_of_all (by decide)⟩
      | true => exact ⟨by decide, forall_mem_of_all (by decide)⟩
  | integer value =>
      exact ⟨toList_toString_ne_nil _, fun _ member => isValueCharacter_of_mem_toString member⟩
  | long value =>
      exact ⟨toList_toString_ne_nil _, fun _ member => isValueCharacter_of_mem_toString member⟩
  | double value =>
      rw [TypedValue.asText, Floating.Layout.render, String.toList_ofList]
      exact ⟨Floating.plain_ne_nil value, Floating.plain_isValueCharacter value⟩
  | float value =>
      rw [TypedValue.asText, Floating.Layout.render, String.toList_ofList]
      exact ⟨Floating.plain_ne_nil value, Floating.plain_isValueCharacter value⟩
  | date day =>
      rw [TypedValue.asText, Calendar.Date.text, String.toList_ofList]
      exact ⟨day.chars_ne_nil, fun _ member => Calendar.Date.isValueCharacter_of_mem_chars member⟩

theorem isBareText_bound (side : BoundSide) {value : TypedValue}
    (bare : isQuoted value = false) : IsBareText (bound side value) := by
  cases value with
  | date day =>
      constructor
      · exact List.append_ne_nil_of_left_ne_nil day.chars_ne_nil _
      · intro c member
        rcases List.mem_append.1 member with inDay | inTime
        · exact Calendar.Date.isValueCharacter_of_mem_chars inDay
        · have ofTime (side : BoundSide) : ∀ d ∈ side.time, IsValueCharacter d := by
            cases side with
            | lower => exact forall_mem_of_all (by decide)
            | upper => exact forall_mem_of_all (by decide)
          exact ofTime side c inTime
  | text value => cases bare
  | keyword name => cases bare
  | uuid uuid => cases bare
  | boolean value => exact isBareText_asText bare
  | integer value => exact isBareText_asText bare
  | long value => exact isBareText_asText bare
  | double value => exact isBareText_asText bare
  | float value => exact isBareText_asText bare

/-! ## Escaped texts -/

/-- The text that a text with backslashes stands for. -/
def unescaped : List Char → List Char
  | '\\' :: c :: rest => c :: unescaped rest
  | c :: rest => c :: unescaped rest
  | [] => []

theorem unescaped_cons {c : Char} (notBackslash : c ≠ '\\') (rest : List Char) :
    unescaped (c :: rest) = c :: unescaped rest := by
  rw [unescaped]
  intro other others isBackslash
  exact absurd isBackslash notBackslash

theorem escape_cons (c : Char) (rest : List Char) :
    escape (c :: rest) = escapedForm c ++ escape rest :=
  List.flatMap_cons

theorem escapedForm_of_mem {c : Char} (special : c ∈ specialCharacters) :
    escapedForm c = ['\\', c] := by
  rw [escapedForm, if_pos (List.contains_iff_mem.2 special)]

theorem escapedForm_of_not_mem {c : Char} (plain : c ∉ specialCharacters) :
    escapedForm c = [c] := by
  rw [escapedForm, if_neg (mt List.contains_iff_mem.1 plain)]

/-- Nothing is lost by escaping, whatever the characters are. -/
theorem unescaped_escape (text : List Char) : unescaped (escape text) = text := by
  induction text with
  | nil => rfl
  | cons c rest inductionHypothesis =>
      rw [escape_cons]
      by_cases special : c ∈ specialCharacters
      · rw [escapedForm_of_mem special]
        show c :: unescaped (escape rest) = c :: rest
        rw [inductionHypothesis]
      · have notBackslash : c ≠ '\\' := by
          rintro rfl
          exact special (by decide)
        rw [escapedForm_of_not_mem special, List.singleton_append, unescaped_cons notBackslash,
          inductionHypothesis]

theorem escaped_escape {plain : Char → Prop} {text : List Char}
    (each : ∀ c ∈ text, c ∉ specialCharacters → plain c) : Escaped plain (escape text) := by
  induction text with
  | nil => exact .nil
  | cons c rest inductionHypothesis =>
      have restEscaped := inductionHypothesis fun other member =>
        each other (List.mem_cons_of_mem c member)
      rw [escape_cons]
      by_cases special : c ∈ specialCharacters
      · rw [escapedForm_of_mem special]
        exact .escaped c restEscaped
      · rw [escapedForm_of_not_mem special]
        exact .plain (each c List.mem_cons_self special) restEscaped

theorem isQuotable_of_not_mem {c : Char} (plain : c ∉ specialCharacters) : IsQuotable c := by
  constructor
  · rintro rfl
    exact plain (by decide)
  · rintro rfl
    exact plain (by decide)

theorem escape_ne_nil {text : List Char} (notEmpty : text ≠ []) : escape text ≠ [] := by
  intro isEmpty
  rw [← unescaped_escape text, isEmpty] at notEmpty
  exact notEmpty rfl

theorem unescaped_eq_self {text : List Char} (each : ∀ c ∈ text, IsQuotable c) :
    unescaped text = text := by
  induction text with
  | nil => rfl
  | cons c rest inductionHypothesis =>
      rw [unescaped_cons (each c List.mem_cons_self).2,
        inductionHypothesis fun other member => each other (List.mem_cons_of_mem c member)]

theorem escaped_of_each {plain : Char → Prop} {text : List Char} (each : ∀ c ∈ text, plain c) :
    Escaped plain text := by
  induction text with
  | nil => exact .nil
  | cons c rest inductionHypothesis =>
      exact .plain (each c List.mem_cons_self)
        (inductionHypothesis fun other member => each other (List.mem_cons_of_mem c member))

/-! ## Atoms -/

/-- A text between quotes, with whatever has a meaning escaped. -/
def QuotedText.ofText (text : List Char) : QuotedText where
  chars := escape text
  escaped := escaped_escape fun _ _ => isQuotable_of_not_mem

/-- A value on its own. -/
def Token.ofText (text : List Char) (bare : IsBareText text) : Token where
  chars := escape text
  notEmpty := escape_ne_nil bare.notEmpty
  escaped := escaped_escape fun c member notSpecial =>
    ⟨notSpecial, (bare.each c member).isBlank_eq_false⟩

theorem isBoundCharacter_of_isValueCharacter {c : Char} (isValue : IsValueCharacter c) :
    IsBoundCharacter c := by
  refine ⟨isValue.isBlank_eq_false, ?_, ?_⟩
  · rintro rfl
    exact absurd isValue (by decide)
  · rintro rfl
    exact absurd isValue (by decide)

/-- The bound of a range, the wildcard if there is none. -/
def BoundToken.ofBound (side : BoundSide) (value : Option TypedValue)
    (bare : ∀ bound ∈ value, isQuoted bound = false) : BoundToken where
  chars := boundOrWildcard side value
  notEmpty := by
    cases value with
    | none => exact List.cons_ne_nil _ _
    | some value => exact (isBareText_bound side (bare value rfl)).notEmpty
  each := by
    intro c member
    cases value with
    | none =>
        rw [List.mem_singleton.1 member]
        exact ⟨by decide, by decide, by decide⟩
    | some value =>
        exact isBoundCharacter_of_isValueCharacter
          ((isBareText_bound side (bare value rfl)).each c member)

/-- A bound that says a value, or that there is none; the time of day stands behind days only. -/
def BoundToken.Says (token : BoundToken) (time : List Char) : Option TypedValue → Prop
  | none => token.chars = ['*']
  | some (.date day) => token.chars = day.text.toList ++ time
  | some value => token.chars = value.asText.toList

theorem BoundToken.says_ofBound (side : BoundSide) {value : Option TypedValue}
    (bare : ∀ bound ∈ value, isQuoted bound = false) :
    (BoundToken.ofBound side value bare).Says side.time value := by
  cases value with
  | none => rfl
  | some value =>
      cases value with
      | date day => exact congrArg (· ++ side.time) String.toList_ofList.symm
      | _ => rfl

namespace Atom

/-- An atom that says a value. -/
def SaysValue (value : TypedValue) : Atom → Prop
  | .bare token => isQuoted value = false ∧ unescaped token.chars = value.asText.toList
  | .quoted text => isQuoted value = true ∧ unescaped text.chars = value.asText.toList
  | .between _ _ => False

/-- An atom that says two bounds, a day from its first or up to its last time. -/
def SaysBounds (lower upper : Option TypedValue) : Atom → Prop
  | .between first second =>
      first.Says "T00:00:00Z".toList lower ∧ second.Says "T23:59:59.999Z".toList upper
  | _ => False

/-- An atom that says the inside of a shape. -/
def SaysInside (shape : String) : Atom → Prop
  | .quoted text =>
      unescaped text.chars = "IsWithin(".toList ++ shape.toList ++ ") distErrPct=0".toList
  | _ => False

end Atom

end Solr

end FacetedSearch
