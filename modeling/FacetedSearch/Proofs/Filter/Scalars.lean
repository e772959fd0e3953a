import FacetedSearch.Proofs.Calendar.Coverage
import FacetedSearch.Proofs.Engine.Solr.Atoms
import FacetedSearch.Proofs.Floating.Reading

/-!
Contract: the text of a single value is read as the value.

Owns:
- `readInt?_toString`: an integer within the bounds is read back from its numeral;
- `year_lt_of_readPeriod` and `readPeriod_text`: the years that are read have four digits, and a day
  of such a year is read back from its text as the period of this day only;
- `Uuid.read?_chars`: an identifier is read back from its hyphenated form;
- `Vocabulary.lookup?_of_lookup?`: a name that was found is what the look-up of itself finds, also
  where several names have one normal form;
- `TypedValue.IsScalar`, the values that single values of a type are read as;
- `isScalar_of_readScalar` and `readScalar_asText_iff`: only such values are read, and each is read
  back from its text;
- `readScalar_asText`: so the text of a value that was read is read as this value again.

Does not own: ranges of values, and periods of more than a day.
-/

namespace FacetedSearch

open Calendar Text

/-! ## Texts of values -/

/-- The characters of values are no blanks, so that there is nothing to trim. -/
theorem trimBlanks_of_isValueCharacter {text : List Char} (each : ∀ c ∈ text, IsValueCharacter c) :
    trimBlanks text = text := by
  have ends : NoBlankEnds text := .of_forall fun c member => (each c member).isBlank_eq_false
  exact ends.trimBlanks

/-! ## Integers -/

/-- An integer is read back from its numeral, which has a sign only if it is negative. -/
theorem readInt?_toString {least most number : Int} (atLeast : least ≤ number)
    (atMost : number ≤ most) :
    Numeral.readInt? least most (toString number).toList = some number := by
  have within : (least ≤ number ∧ number ≤ most) := ⟨atLeast, atMost⟩
  rw [Int.toString_eq_repr, Int.repr_eq_if]
  by_cases nonnegative : 0 ≤ number
  · have digits := areDigits_toDigits number.toNat
    have value : ((number.toNat : Nat) : Int) = number := Int.toNat_of_nonneg nonnegative
    rw [if_pos nonnegative, Nat.repr_eq_ofList_toDigits, String.toList_ofList, digits.readInt?,
      Nat.ofDigitChars_ten_toDigits, value, Option.filter_some, if_pos (by simp [within])]
  · have digits := areDigits_toDigits (-number).toNat
    have value : -(((-number).toNat : Nat) : Int) = number := by
      omega
    rw [if_neg nonnegative, String.toList_append, Nat.repr_eq_ofList_toDigits,
      String.toList_ofList, String.toList_ofList, List.singleton_append]
    simp only [Numeral.readInt?, digits.readDigits?, Nat.ofDigitChars_ten_toDigits]
    show (some (-(((-number).toNat : Nat) : Int))).filter _ = some number
    rw [value, Option.filter_some, if_pos (by simp [within])]

/-! ## Days -/

namespace Calendar

/-- A number that fits the width is a group of this width. -/
theorem isGroup_padded {least width value : Nat} (atLeast : least ≤ width) (someWidth : 0 < width)
    (fits : value < 10 ^ width) :
    IsGroup Char.isDigit least width (Numeral.padded width value) := by
  have digits := areDigits_toDigits value
  have atMost : (Nat.toDigits 10 value).length ≤ width :=
    (Nat.length_toDigits_le_iff (by decide) someWidth).2 fits
  have length : (Numeral.padded width value).length = width := by
    simp only [Numeral.padded, List.length_append, List.length_replicate]
    omega
  refine ⟨?_, by omega, by omega⟩
  intro c member
  rcases List.mem_append.1 member with isZero | inDigits
  · rw [(List.mem_replicate.1 isZero).2]
    decide
  · exact digits.each c inDigits

theorem number_padded (width value : Nat) : number (Numeral.padded width value) = value := by
  simp only [number, Numeral.padded, Nat.ofDigitChars_append, Nat.ofDigitChars_replicate_zero,
    Nat.mul_zero, Nat.ofDigitChars_ten_toDigits]

theorem ofDigitChars_lt {group : List Char} (digits : ∀ c ∈ group, c.isDigit = true)
    (start : Nat) : Nat.ofDigitChars 10 group start < (start + 1) * 10 ^ group.length := by
  induction group generalizing start with
  | nil => simp [Nat.ofDigitChars]
  | cons c rest inductionHypothesis =>
      rw [List.forall_mem_cons] at digits
      have bounds := toNat_of_isDigit digits.1
      have zero : '0'.toNat = 48 := rfl
      have more : 10 * start + (c.toNat - '0'.toNat) + 1 ≤ (start + 1) * 10 := by
        omega
      rw [Nat.ofDigitChars_cons, List.length_cons]
      calc Nat.ofDigitChars 10 rest (10 * start + (c.toNat - '0'.toNat))
          < (10 * start + (c.toNat - '0'.toNat) + 1) * 10 ^ rest.length :=
            inductionHypothesis digits.2 _
        _ ≤ (start + 1) * 10 * 10 ^ rest.length := Nat.mul_le_mul_right _ more
        _ = (start + 1) * 10 ^ (rest.length + 1) := by
            rw [Nat.pow_succ', Nat.mul_assoc]

/-- A group of digits stands for a number with so many digits. -/
theorem IsGroup.readDigits?_lt {least most value : Nat} {group : List Char}
    (isGroup : IsGroup isDecimalDigit least most group)
    (read : Numeral.readDigits? group = some value) : value < 10 ^ most := by
  unfold Numeral.readDigits? at read
  split at read
  · rename_i digits
    cases read
    have bound := ofDigitChars_lt (List.all_eq_true.1 digits.2) 0
    rw [Nat.zero_add, Nat.one_mul] at bound
    exact Nat.lt_of_lt_of_le bound (Nat.pow_le_pow_right (by decide) isGroup.atMost)
  · cases read

theorem DateParts.Form.isYear {parts : DateParts} {isDigit : Char → Bool} {text : List Char}
    (form : parts.Form isDigit text) : IsGroup isDigit 4 4 parts.year := by
  cases form with
  | year isYear => exact isYear
  | month isYear isMonth => exact isYear
  | day isYear isMonth isDay => exact isYear
  | moment isYear isMonth isDay isMark isTime => exact isYear

/-- The first day of a period has the year that the digit groups state. -/
theorem DateParts.readDigits?_year {parts : DateParts} {period : Period}
    (read : parts.period? = some period) :
    Numeral.readDigits? parts.year = some period.first.year := by
  cases isYear : Numeral.readDigits? parts.year with
  | none => simp [period?, isYear] at read
  | some year =>
      cases isMonth : groupValue? parts.month with
      | none =>
          rw [period?_of_year isYear isMonth, Option.some.injEq] at read
          rw [← read]
          rfl
      | some month =>
          cases isDay : groupValue? parts.day with
          | none =>
              obtain ⟨inYear, rfl⟩ := (period?_of_month isYear isMonth isDay).1 read
              rfl
          | some day =>
              obtain ⟨-, date, found, rfl⟩ := (period?_of_day isYear isMonth isDay).1 read
              rw [(of?_eq_some_iff.1 found).1]

/-- Only years of four digits are read. -/
theorem year_lt_of_readPeriod {text : String} {period : Period}
    (read : readPeriod text = .ok period) : period.first.year < 10000 := by
  obtain ⟨parts, form, isPeriod⟩ := readPeriod_eq_ok_iff.1 read
  exact form.isYear.readDigits?_lt (DateParts.readDigits?_year isPeriod)

/-- A day of such a year is read back from its text, as the period of this day only. -/
theorem readPeriod_text {date : Date} (fits : date.year < 10000) :
    readPeriod date.text = .ok ⟨date, date⟩ := by
  obtain ⟨-, atMostMonth, -, atMostDay⟩ := date.isDay
  have atMostDays := (daysInMonth_bounds date.year date.month).2
  have isYear : IsGroup Char.isDigit 4 4 (Numeral.padded 4 date.year) :=
    isGroup_padded (Nat.le_refl 4) (by decide) fits
  have isMonth : IsGroup Char.isDigit 1 2 (Numeral.padded 2 date.month) :=
    isGroup_padded (by decide) (by decide) (by omega)
  have isDay : IsGroup Char.isDigit 1 2 (Numeral.padded 2 date.day) :=
    isGroup_padded (by decide) (by decide) (by omega)
  have form := (DateParts.Form.day isYear isMonth isDay).mono fun c _ => isDecimalDigit_of_isDigit
  have trimmed : trimBlanks date.text.toList = Numeral.padded 4 date.year ++
      '-' :: (Numeral.padded 2 date.month ++ '-' :: Numeral.padded 2 date.day) := by
    have each : ∀ c ∈ date.chars, IsValueCharacter c :=
      fun _ => Date.isValueCharacter_of_mem_chars
    rw [Date.text, String.toList_ofList, trimBlanks_of_isValueCharacter each, Date.chars,
      List.append_assoc, List.cons_append]
  rw [← trimmed] at form
  refine readPeriod_eq_ok_iff.2 ⟨_, form, ?_⟩
  rw [DateParts.period?_of_day isYear.readDigits? isMonth.groupValue? isDay.groupValue?]
  have named : Date.of? (number (Numeral.padded 4 date.year))
      (number (Numeral.padded 2 date.month)) (number (Numeral.padded 2 date.day)) = some date := by
    rw [of?_eq_some_iff, number_padded, number_padded, number_padded]
    exact ⟨rfl, rfl, rfl⟩
  exact ⟨rfl, date, named, rfl⟩

end Calendar

/-! ## Identifiers -/

theorem toLower_of_isLowerHexDigit {c : Char} (isHex : isLowerHexDigit c = true) :
    c.toLower = c := by
  rcases Bool.or_eq_true _ _ |>.mp isHex with isDigit | isLetter
  · exact Floating.toLower_of_isDigit isDigit
  · have bounds := (Bool.and_eq_true _ _).mp isLetter
    have letter : 97 ≤ c.toNat := of_decide_eq_true bounds.1
    unfold Char.toLower
    rw [dif_neg]
    rintro ⟨-, upper⟩
    have upperCode : c.toNat ≤ 90 := upper
    omega

theorem isValueCharacter_of_isLowerHexDigit {c : Char} (isHex : isLowerHexDigit c = true) :
    IsValueCharacter c := by
  rcases Bool.or_eq_true _ _ |>.mp isHex with isDigit | isLetter
  · exact isValueCharacter_of_isDigit isDigit
  · have bounds := (Bool.and_eq_true _ _).mp isLetter
    have least : 97 ≤ c.toNat := of_decide_eq_true bounds.1
    have most : c.toNat ≤ 102 := of_decide_eq_true bounds.2
    have isLower : c.isLower = true :=
      (Bool.and_eq_true _ _).mpr ⟨decide_eq_true least,
        decide_eq_true (Nat.le_trans most (by decide))⟩
    have isAlpha : c.isAlpha = true := (Bool.or_eq_true _ _).mpr (.inr isLower)
    exact .inl ((Bool.or_eq_true _ _).mpr (.inl isAlpha))

namespace Uuid

/-- Groups of digits between hyphens are read as all their digits together. -/
theorem readHyphenated?_groups {first second third fourth fifth : List Char}
    (eight : first.length = 8) (four : second.length = 4) (fourMore : third.length = 4)
    (fourLast : fourth.length = 4) (twelve : fifth.length = 12) :
    readHyphenated? (first ++ '-' :: second ++ '-' :: third ++ '-' :: fourth ++ '-' :: fifth) =
      ofDigits? (first ++ second ++ third ++ fourth ++ fifth) := by
  simp [readHyphenated?, List.drop_append, List.drop_of_length_le, eight, four, fourMore, fourLast,
    twelve]

/-- Digits in lower case are those of the identifier already. -/
theorem ofDigits?_digits (uuid : Uuid) : ofDigits? uuid.digits = some uuid := by
  have isHex := List.all_eq_true.1 uuid.wellFormed.2
  have same : uuid.digits.map Char.toLower = uuid.digits := by
    have each := List.map_congr_left (g := id) fun c member =>
      toLower_of_isLowerHexDigit (isHex c member)
    rwa [List.map_id] at each
  simp only [ofDigits?, same, dif_pos uuid.wellFormed]

/-- The groups of the hyphenated form are all digits. -/
theorem groups_append (digits : List Char) :
    digits.take 8 ++ (digits.drop 8).take 4 ++ (digits.drop 12).take 4 ++
      (digits.drop 16).take 4 ++ digits.drop 20 = digits := by
  rw [← List.take_add, ← List.take_add, ← List.take_add, List.take_append_drop]

/-- An identifier is read back from its hyphenated form. -/
theorem read?_chars (uuid : Uuid) : read? uuid.chars = some uuid := by
  have digits := uuid.wellFormed.1
  have length : uuid.chars.length = 36 := by
    simp [chars, digits]
  have first : (uuid.digits.take 8).length = 8 := by simp [digits]
  have second : ((uuid.digits.drop 8).take 4).length = 4 := by simp [digits]
  have third : ((uuid.digits.drop 12).take 4).length = 4 := by simp [digits]
  have fourth : ((uuid.digits.drop 16).take 4).length = 4 := by simp [digits]
  have fifth : (uuid.digits.drop 20).length = 12 := by simp [digits]
  rw [read?, if_neg (by omega), if_pos length, chars,
    readHyphenated?_groups first second third fourth fifth, groups_append, ofDigits?_digits]

theorem isValueCharacter_of_mem_chars {uuid : Uuid} {c : Char} (member : c ∈ uuid.chars) :
    IsValueCharacter c := by
  have isHex := List.all_eq_true.1 uuid.wellFormed.2
  have ofDigit (inDigits : c ∈ uuid.digits) : IsValueCharacter c :=
    isValueCharacter_of_isLowerHexDigit (isHex c inDigits)
  simp only [chars, List.mem_append, List.mem_cons] at member
  rcases member with (((inGroup | rfl | inGroup) | rfl | inGroup) | rfl | inGroup) | rfl | inGroup
  · exact ofDigit (List.mem_of_mem_take inGroup)
  · decide
  · exact ofDigit (List.mem_of_mem_drop (List.mem_of_mem_take inGroup))
  · decide
  · exact ofDigit (List.mem_of_mem_drop (List.mem_of_mem_take inGroup))
  · decide
  · exact ofDigit (List.mem_of_mem_drop (List.mem_of_mem_take inGroup))
  · decide
  · exact ofDigit (List.mem_of_mem_drop inGroup)

end Uuid

/-! ## Names -/

namespace Vocabulary

/-- The look-up sees of a text its normal form only, so that a name that was found is found again,
even where other names have its normal form. -/
theorem lookup?_of_lookup? {vocabulary : Vocabulary} {value name : String}
    (found : vocabulary.lookup? value = some name) : vocabulary.lookup? name = some name := by
  have sameForm : normalForm name = normalForm value := by
    unfold lookup? at found
    dsimp only at found
    split at found
    · cases found
    · simpa using List.find?_some found
  unfold lookup? at found ⊢
  rw [sameForm]
  exact found

end Vocabulary

/-! ## Values -/

open Solr in
theorem TypedValue.trimBlanks_asText (value : TypedValue)
    (bare : isQuoted value = false) : trimBlanks value.asText.toList = value.asText.toList :=
  trimBlanks_of_isValueCharacter (isBareText_asText bare).each

theorem trimBlanks_uuid (uuid : Uuid) :
    trimBlanks (TypedValue.uuid uuid).asText.toList = uuid.chars := by
  rw [TypedValue.asText, Uuid.text, String.toList_ofList]
  exact trimBlanks_of_isValueCharacter fun _ => Uuid.isValueCharacter_of_mem_chars

theorem readFinite?_render {format : Floating.Format} (fraction : 1 ≤ format.fractionBits)
    {value : Floating format} (finite : value.isFinite = true) :
    readFinite? (Floating.plainLayout.renderChars value) = some value := by
  cases value with
  | finite negative code =>
      rw [readFinite?, Floating.readFloating?_finite fraction, Option.filter_some]
      exact if_pos finite
  | infinite negative => cases finite
  | notANumber => cases finite

namespace TypedValue

/-- What single values of a type are read as: names that the look-up finds under themselves, numbers
that are finite, days of years of four digits, and all other values of the type. -/
def IsScalar : TypedValue → ValueType → Prop
  | .keyword name, .enumeration vocabulary => vocabulary.lookup? name = some name
  | .double value, .double => value.isFinite = true
  | .float value, .float => value.isFinite = true
  | .date day, .date => day.year < 10000
  | value, type => value.HasType type

end TypedValue

/-- Only such values are read. -/
theorem isScalar_of_readScalar {type : ValueType} {raw : String} {value : TypedValue}
    (read : readScalar type raw = .ok value) : value.IsScalar type := by
  have content {α : Type} {expected : String} {make : α → TypedValue} {found : Option α}
      (isRead : orMalformed raw expected (found.map make) = .ok value) :
      ∃ content, found = some content ∧ make content = value :=
    Option.map_eq_some_iff.1 (orMalformed_eq_ok_iff.1 isRead)
  cases type with
  | text =>
      cases read
      trivial
  | enumeration vocabulary =>
      obtain ⟨name, found, rfl⟩ := content read
      exact Vocabulary.lookup?_of_lookup? found
  | boolean =>
      obtain ⟨isTrue, -, rfl⟩ := content read
      trivial
  | integer =>
      obtain ⟨number, -, rfl⟩ := content read
      trivial
  | long =>
      obtain ⟨number, -, rfl⟩ := content read
      trivial
  | double =>
      obtain ⟨number, found, rfl⟩ := content read
      exact (Option.filter_eq_some_iff.1 found).2
  | float =>
      obtain ⟨number, found, rfl⟩ := content read
      exact (Option.filter_eq_some_iff.1 found).2
  | date =>
      obtain ⟨period, isPeriod, rfl⟩ := map_eq_ok_iff.1 read
      exact year_lt_of_readPeriod isPeriod
  | uuid =>
      obtain ⟨uuid, -, rfl⟩ := content read
      trivial

/-- A content that was found in a text is read as its value. -/
theorem orMalformed_map {α : Type} {raw expected : String} (make : α → TypedValue)
    {found : Option α} {content : α} (isFound : found = some content) :
    orMalformed raw expected (found.map make) = .ok (make content) :=
  orMalformed_eq_ok_iff.2 (Option.map_eq_some_iff.2 ⟨content, isFound, rfl⟩)

theorem readScalar_asText_integer (value : Int32) :
    readScalar .integer (TypedValue.integer value).asText = .ok (.integer value) := by
  have trimmed := TypedValue.trimBlanks_asText (.integer value) rfl
  have read : Numeral.readInt? Numeral.minInt32 Numeral.maxInt32
      (trimBlanks (TypedValue.integer value).asText.toList) = some value.toInt := by
    rw [trimmed]
    exact readInt?_toString value.le_toInt value.toInt_le
  have isValue : readScalar .integer (TypedValue.integer value).asText =
      .ok (.integer (Int32.ofInt value.toInt)) :=
    orMalformed_map (fun number => .integer (Int32.ofInt number)) read
  rwa [Int32.ofInt_toInt] at isValue

theorem readScalar_asText_long (value : Int64) :
    readScalar .long (TypedValue.long value).asText = .ok (.long value) := by
  have trimmed := TypedValue.trimBlanks_asText (.long value) rfl
  have read : Numeral.readInt? Numeral.minInt64 Numeral.maxInt64
      (trimBlanks (TypedValue.long value).asText.toList) = some value.toInt := by
    rw [trimmed]
    exact readInt?_toString value.le_toInt value.toInt_le
  have isValue : readScalar .long (TypedValue.long value).asText =
      .ok (.long (Int64.ofInt value.toInt)) :=
    orMalformed_map (fun number => .long (Int64.ofInt number)) read
  rwa [Int64.ofInt_toInt] at isValue

/-- Finite numbers are read back from their texts in every format, zeros with their signs. -/
theorem readFinite?_asText {format : Floating.Format} (fraction : 1 ≤ format.fractionBits)
    {value : Floating format} (finite : value.isFinite = true) (written : TypedValue)
    (bare : Solr.isQuoted written = false)
    (isText : written.asText = Floating.plainLayout.render value) :
    readFinite? (trimBlanks written.asText.toList) = some value := by
  have read := readFinite?_render fraction finite
  rw [written.trimBlanks_asText bare, isText, Floating.Layout.render, String.toList_ofList]
  exact read

/-- Exactly such values are read back from their texts. -/
theorem readScalar_asText_iff {type : ValueType} {value : TypedValue} :
    readScalar type value.asText = .ok value ↔ value.IsScalar type := by
  constructor
  · exact isScalar_of_readScalar
  · intro isScalar
    -- A value has one type only, its own: at all others it is no value that is read.
    cases value with
    | text content =>
        cases type with
        | text => rfl
        | _ => cases isScalar
    | keyword name =>
        cases type with
        | enumeration vocabulary => exact orMalformed_map .keyword isScalar
        | _ => cases isScalar
    | boolean content =>
        cases type with
        | boolean => cases content <;> decide
        | _ => cases isScalar
    | integer content =>
        cases type with
        | integer => exact readScalar_asText_integer content
        | _ => cases isScalar
    | long content =>
        cases type with
        | long => exact readScalar_asText_long content
        | _ => cases isScalar
    | double content =>
        cases type with
        | double =>
            have read := readFinite?_asText (by decide) isScalar (.double content) rfl rfl
            exact orMalformed_map .double read
        | _ => cases isScalar
    | float content =>
        cases type with
        | float =>
            have read := readFinite?_asText (by decide) isScalar (.float content) rfl rfl
            exact orMalformed_map .float read
        | _ => cases isScalar
    | date day =>
        cases type with
        | date =>
            have read : readPeriod day.text = .ok ⟨day, day⟩ := readPeriod_text isScalar
            simp only [readScalar, TypedValue.asText, read, Except.map]
        | _ => cases isScalar
    | uuid identifier =>
        cases type with
        | uuid =>
            have read : Uuid.read? (trimBlanks (TypedValue.uuid identifier).asText.toList) =
                some identifier := by
              rw [trimBlanks_uuid]
              exact Uuid.read?_chars identifier
            exact orMalformed_map .uuid read
        | _ => cases isScalar

/-- **The text of a value denotes the value.** Whatever a raw value of any type was read as, and
however it was written, with blanks, in other cases, with separators or leading zeros or without a
day, the text of the value is read as this value again: of several names with one normal form the
first is found both times. -/
theorem readScalar_asText {type : ValueType} {raw : String} {value : TypedValue}
    (read : readScalar type raw = .ok value) : readScalar type value.asText = .ok value := by
  apply readScalar_asText_iff.2
  exact isScalar_of_readScalar read

namespace Observations

/-- Two names with one normal form. -/
def alikeNames : Vocabulary :=
  ["Preserved-Specimen", "PRESERVED_SPECIMEN"]

/-- The second of two alike names is read as the first one, a month as its first day. -/
theorem readScalar_asText_alikeNames :
    readScalar (.enumeration alikeNames) "PRESERVED_SPECIMEN" =
        .ok (.keyword "Preserved-Specimen") ∧
      readScalar (.enumeration alikeNames) "Preserved-Specimen" =
        .ok (.keyword "Preserved-Specimen") ∧
      readScalar .date " 2010-2 " = .ok (.date ⟨2010, 2, 1, by decide⟩) ∧
      readScalar .date "2010-02-01" = .ok (.date ⟨2010, 2, 1, by decide⟩) := by
  have name : readScalar (.enumeration alikeNames) "PRESERVED_SPECIMEN" =
      .ok (.keyword "Preserved-Specimen") := by decide +kernel
  have day : readScalar .date " 2010-2 " = .ok (.date ⟨2010, 2, 1, by decide⟩) := by
    decide +kernel
  exact ⟨name, readScalar_asText name, day, readScalar_asText day⟩

end Observations

end FacetedSearch
