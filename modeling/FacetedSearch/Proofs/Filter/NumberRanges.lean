import FacetedSearch.Proofs.Filter.DateRanges
import FacetedSearch.Proofs.Filter.RangeGrammar

/-!
Contract: ranges between literals of numbers under the usual settings.

Owns:
- `LiteralForm`, how literals of numbers are written, and `literalForm_of_readNumber?`: whatever is
  read as a number of any type has this form;
- `IsPlainLiteral`, literals without a plus sign in front and with digits on both sides of a point,
  and `LiteralForm.endForm_iff`: these are the literals that may stand at an end of a range;
- `number_ranges_iff`: two literals around a comma are read as the range between their numbers
  exactly if both are plain, and are refused otherwise.

The reader of literals and the patterns of bounds are written independently of each other.

Does not own: bounds that are open, and texts that are no literals of the type.
-/

namespace FacetedSearch

open Calendar Floating Text

/-! ## Literals -/

/-- How literals of numbers are written: with an optional sign, an optional point that has a digit
on one side at least, and an optional exponent. -/
inductive LiteralForm : List Char → Prop where
  | whole {sign digits exponent : List Char} (isSign : sign = [] ∨ sign = ['-'] ∨ sign = ['+'])
      (areDigits : AreDigits digits) (isExponent : ExponentForm exponent) :
      LiteralForm (sign ++ (digits ++ exponent))
  | point {sign before after exponent : List Char}
      (isSign : sign = [] ∨ sign = ['-'] ∨ sign = ['+'])
      (eachBefore : ∀ c ∈ before, c.isDigit = true) (eachAfter : ∀ c ∈ after, c.isDigit = true)
      (someDigits : before ≠ [] ∨ after ≠ []) (isExponent : ExponentForm exponent) :
      LiteralForm (sign ++ (before ++ '.' :: (after ++ exponent)))

theorem forall_mem_asciiDigits {text : List Char} (each : ∀ c ∈ text, c.isDigit = true) :
    ∀ c ∈ text, IsBoundCharacter c :=
  fun c member => .inl (isDecimalDigit_of_isDigit (each c member))

theorem forall_mem_sign {sign : List Char} (isSign : sign = [] ∨ sign = ['-'] ∨ sign = ['+']) :
    ∀ c ∈ sign, c = '-' ∨ c = '+' := by
  rcases isSign with rfl | rfl | rfl
  · simp
  · simp
  · simp

theorem LiteralForm.characters {text : List Char} (form : LiteralForm text) :
    ∀ c ∈ text, IsBoundCharacter c := by
  have ofSign {sign : List Char} (isSign : sign = [] ∨ sign = ['-'] ∨ sign = ['+']) :
      ∀ c ∈ sign, IsBoundCharacter c := by
    intro c member
    rcases forall_mem_sign isSign c member with rfl | rfl
    · decide
    · decide
  cases form with
  | whole isSign areDigits isExponent =>
      refine List.forall_mem_append.2 ⟨ofSign isSign, ?_⟩
      exact List.forall_mem_append.2
        ⟨forall_mem_asciiDigits areDigits.each, isExponent.characters⟩
  | point isSign eachBefore eachAfter someDigits isExponent =>
      refine List.forall_mem_append.2 ⟨ofSign isSign, ?_⟩
      refine List.forall_mem_append.2 ⟨forall_mem_asciiDigits eachBefore, ?_⟩
      refine List.forall_mem_cons.2 ⟨by decide, ?_⟩
      exact List.forall_mem_append.2 ⟨forall_mem_asciiDigits eachAfter, isExponent.characters⟩

/-! ## Readers of literals -/

theorem areDigits_of_readDigits? {text : List Char} {value : Nat}
    (read : Numeral.readDigits? text = some value) : AreDigits text := by
  unfold Numeral.readDigits? at read
  split at read
  · rename_i digits
    exact ⟨digits.1, List.all_eq_true.1 digits.2⟩
  · cases read

theorem literalForm_of_readInt? {least most value : Int} {text : List Char}
    (read : Numeral.readInt? least most text = some value) : LiteralForm text := by
  have withSign {sign digits : List Char} {convert : Int → Int}
      (isSign : sign = [] ∨ sign = ['-'] ∨ sign = ['+'])
      (found : Option.map convert (do
        let number ← Numeral.readDigits? digits
        pure (number : Int)) = some value) : LiteralForm (sign ++ digits) := by
    cases isNumber : Numeral.readDigits? digits with
    | none => simp [isNumber] at found
    | some number =>
        have form := LiteralForm.whole isSign (areDigits_of_readDigits? isNumber) .nothing
        rwa [List.append_nil] at form
  have found := (Option.filter_eq_some_iff.1 read).1
  split at found
  · exact withSign (.inr (.inl rfl)) found
  · exact withSign (.inr (.inr rfl)) found
  · exact withSign (.inl rfl) found

theorem exponentForm_of_exponentValue? {text : List Char} {value : Int}
    (read : exponentValue? text = some value) : ExponentForm text := by
  have digitsOf {digits : List Char} {number : Int} (found : (if digits ≠ [] ∧
      digits.all Char.isDigit then some (Nat.ofDigitChars 10 digits 0 : Int) else none) =
        some number) : digits ≠ [] ∧ ∀ c ∈ digits, isDecimalDigit c = true := by
    split at found
    · rename_i digits
      have each := List.all_eq_true.1 digits.2
      exact ⟨digits.1, fun c member => isDecimalDigit_of_isDigit (each c member)⟩
    · cases found
  unfold exponentValue? at read
  dsimp only at read
  split at read
  · exact .nothing
  · split at read
    · rename_i mark rest isMark
      split at read
      · obtain ⟨number, found, -⟩ := Option.map_eq_some_iff.1 read
        have areDigits := digitsOf found
        exact .power isMark (.inr (.inr rfl)) areDigits.1 areDigits.2
      · have areDigits := digitsOf read
        exact .power isMark (.inr (.inl rfl)) areDigits.1 areDigits.2
      · have areDigits := digitsOf read
        exact .power isMark (.inl rfl) areDigits.1 areDigits.2
    · cases read

theorem each_leadingDigits (text : List Char) : ∀ c ∈ (leadingDigits text).1, c.isDigit = true :=
  List.all_eq_true.1 List.all_takeWhile

theorem leadingDigits_append_rest (text : List Char) :
    (leadingDigits text).1 ++ (leadingDigits text).2 = text :=
  List.takeWhile_append_dropWhile

theorem fractionDigits_cases (text : List Char) :
    (∃ behind, text = '.' :: behind ∧ fractionDigits text = leadingDigits behind) ∨
      fractionDigits text = ([], text) := by
  unfold fractionDigits
  split
  · exact .inl ⟨_, rfl, rfl⟩
  · exact .inr rfl

/-- Digits with an optional point, of which some are there, and an exponent are a literal. -/
theorem literalForm_of_leadingDigits {sign text : List Char}
    (isSign : sign = [] ∨ sign = ['-'] ∨ sign = ['+'])
    (someDigits : ¬ ((leadingDigits text).1.isEmpty &&
      (fractionDigits (leadingDigits text).2).1.isEmpty) = true)
    (isExponent : ExponentForm (fractionDigits (leadingDigits text).2).2) :
    LiteralForm (sign ++ text) := by
  have each := each_leadingDigits text
  have joined := leadingDigits_append_rest text
  rw [Bool.and_eq_true, List.isEmpty_iff, List.isEmpty_iff, not_and_or] at someDigits
  rcases fractionDigits_cases (leadingDigits text).2 with ⟨behind, isPoint, found⟩ | found
  · rw [found] at someDigits isExponent
    have form := LiteralForm.point isSign each (each_leadingDigits behind) someDigits isExponent
    rwa [leadingDigits_append_rest, ← isPoint, joined] at form
  · rw [found] at someDigits isExponent
    have notEmpty : (leadingDigits text).1 ≠ [] := someDigits.resolve_right fun none => none rfl
    have form := LiteralForm.whole isSign ⟨notEmpty, each⟩ isExponent
    rwa [joined] at form

/-- A finite number without its sign is read from digits, a point and an exponent. -/
theorem literalForm_of_readUnsigned? {format : Format} {negative : Bool} {sign text : List Char}
    {value : Floating format} (isSign : sign = [] ∨ sign = ['-'] ∨ sign = ['+'])
    (read : readUnsigned? negative text = some value) (finite : value.isFinite = true) :
    LiteralForm (sign ++ text) := by
  unfold readUnsigned? at read
  dsimp only at read
  split at read
  · cases read
    cases finite
  · split at read
    · cases read
      cases finite
    · split at read
      · cases read
      · rename_i someDigits
        obtain ⟨exponent, isExponent, -⟩ := Option.map_eq_some_iff.1 read
        exact literalForm_of_leadingDigits isSign someDigits
          (exponentForm_of_exponentValue? isExponent)

theorem literalForm_of_readFinite? {format : Format} {text : List Char} {value : Floating format}
    (read : readFinite? text = some value) : LiteralForm text := by
  obtain ⟨found, finite⟩ := Option.filter_eq_some_iff.1 read
  unfold readFloating? at found
  split at found
  · exact literalForm_of_readUnsigned? (.inr (.inl rfl)) found finite
  · exact literalForm_of_readUnsigned? (.inr (.inr rfl)) found finite
  · exact literalForm_of_readUnsigned? (.inl rfl) found finite

/-! ## Types of numbers -/

namespace ValueType

/-- What a text has to be for a type of numbers, as refusals call it; other types have no such
word. -/
def numberWord? : ValueType → Option String
  | .integer => some "integer"
  | .long => some "long"
  | .double => some "double"
  | .float => some "float"
  | _ => none

/-- The number of a literal without blanks around it. -/
def readNumber? (type : ValueType) (text : List Char) : Option TypedValue :=
  match type with
  | .integer =>
      (Numeral.readInt? Numeral.minInt32 Numeral.maxInt32 text).map fun value =>
        .integer (Int32.ofInt value)
  | .long =>
      (Numeral.readInt? Numeral.minInt64 Numeral.maxInt64 text).map fun value =>
        .long (Int64.ofInt value)
  | .double => (readFinite? text).map .double
  | .float => (readFinite? text).map .float
  | _ => none

variable {type : ValueType} {expected : String}

theorem readScalar_number (isNumber : type.numberWord? = some expected) (raw : String) :
    readScalar type raw = orMalformed raw expected (type.readNumber? (trimBlanks raw.toList)) := by
  cases type with
  | integer => cases isNumber; rfl
  | long => cases isNumber; rfl
  | double => cases isNumber; rfl
  | float => cases isNumber; rfl
  | _ => cases isNumber

/-- Whatever is read as a number is written like one. -/
theorem literalForm_of_readNumber? {text : List Char} {value : TypedValue}
    (read : type.readNumber? text = some value) : LiteralForm text := by
  cases type with
  | integer =>
      obtain ⟨number, found, -⟩ := Option.map_eq_some_iff.1 read
      exact literalForm_of_readInt? found
  | long =>
      obtain ⟨number, found, -⟩ := Option.map_eq_some_iff.1 read
      exact literalForm_of_readInt? found
  | double =>
      obtain ⟨number, found, -⟩ := Option.map_eq_some_iff.1 read
      exact literalForm_of_readFinite? found
  | float =>
      obtain ⟨number, found, -⟩ := Option.map_eq_some_iff.1 read
      exact literalForm_of_readFinite? found
  | _ => cases read

theorem supportsRanges_number (isNumber : type.numberWord? = some expected) :
    type.supportsRanges = true ∧ type ≠ .date := by
  cases type with
  | integer => exact ⟨rfl, nofun⟩
  | long => exact ⟨rfl, nofun⟩
  | double => exact ⟨rfl, nofun⟩
  | float => exact ⟨rfl, nofun⟩
  | _ => cases isNumber

end ValueType

/-! ## Literals as bounds -/

/-- A literal that no plus sign begins and whose point, if it has one, stands between two digits. -/
structure IsPlainLiteral (text : List Char) : Prop where
  noPlus : text.head? ≠ some '+'
  digitsAround : ∀ front back, text = front ++ '.' :: back →
    (∃ c ∈ front.getLast?, isDecimalDigit c = true) ∧ ∃ c ∈ back.head?, isDecimalDigit c = true

theorem point_not_mem_digits {text : List Char} (each : ∀ c ∈ text, isDecimalDigit c = true) :
    '.' ∉ text := by
  intro member
  exact absurd (each '.' member) (by decide)

theorem ExponentForm.point_not_mem {text : List Char} (form : ExponentForm text) : '.' ∉ text := by
  cases form with
  | nothing => simp
  | power isMark isSign someDigits each =>
      have inDigits := point_not_mem_digits each
      rcases isMark with rfl | rfl <;> rcases isSign with rfl | rfl | rfl <;> simp [inDigits]

theorem ExponentForm.head {text : List Char} (form : ExponentForm text) :
    ∀ c ∈ text.head?, c = 'e' ∨ c = 'E' := by
  cases form with
  | nothing => simp
  | power isMark isSign someDigits each => simpa using isMark

/-- A point that stands behind a text without points is the only one if none follows it. -/
theorem eq_of_point {front back otherFront otherBack : List Char} (notFront : '.' ∉ front)
    (notBack : '.' ∉ back) (same : front ++ '.' :: back = otherFront ++ '.' :: otherBack) :
    front = otherFront ∧ back = otherBack := by
  have inside : '.' ∈ ['.'] := List.mem_cons_self
  apply eq_of_append_eq inside notFront notBack
  simpa using same

/-- Behind digits a text ends with a digit. -/
theorem exists_getLast?_append {front digits : List Char} (someDigits : digits ≠ [])
    (each : ∀ c ∈ digits, isDecimalDigit c = true) :
    ∃ c ∈ (front ++ digits).getLast?, isDecimalDigit c = true := by
  obtain ⟨initial, last, rfl⟩ := (List.eq_nil_or_concat digits).resolve_left someDigits
  rw [List.concat_eq_append, ← List.append_assoc, List.getLast?_concat]
  exact ⟨last, rfl, each last (by simp)⟩

/-- Numbers as they are written as bounds are plain. -/
theorem NumberForm.isPlainLiteral {text : List Char} (form : NumberForm text) :
    IsPlainLiteral text := by
  cases form with
  | @number sign whole fraction exponent isSign someDigits each isFraction isExponent =>
      have notSign : '.' ∉ sign := by
        rcases isSign with rfl | rfl
        · decide
        · decide
      have notFront : '.' ∉ sign ++ whole := by
        simp [notSign, point_not_mem_digits each]
      constructor
      · obtain ⟨first, rest, rfl⟩ := List.exists_cons_of_ne_nil someDigits
        have isDigit := each first List.mem_cons_self
        rcases isSign with rfl | rfl
        · rintro isPlus
          cases isPlus
          exact absurd isDigit (by decide)
        · exact nofun
      · intro front back split
        rw [← List.append_assoc] at split
        cases isFraction with
        | nothing =>
            have pointInside : '.' ∈ sign ++ whole ++ ([] ++ exponent) := by
              rw [split]
              simp
            rw [List.nil_append, List.mem_append] at pointInside
            exact absurd pointInside (not_or.2 ⟨notFront, isExponent.point_not_mem⟩)
        | @digits c group eachBehind =>
            have notBack : '.' ∉ c :: group ++ exponent := by
              rw [List.mem_append]
              exact not_or.2 ⟨point_not_mem_digits eachBehind, isExponent.point_not_mem⟩
            obtain ⟨rfl, rfl⟩ := eq_of_point notFront notBack split
            exact ⟨exists_getLast?_append someDigits each,
              ⟨c, rfl, eachBehind c List.mem_cons_self⟩⟩

/-- A plain literal is written as numbers are as bounds. -/
theorem LiteralForm.numberForm {text : List Char} (form : LiteralForm text)
    (plain : IsPlainLiteral text) : NumberForm text := by
  have noPlus {sign rest : List Char} (isSign : sign = [] ∨ sign = ['-'] ∨ sign = ['+'])
      (head : (sign ++ rest).head? ≠ some '+') : sign = [] ∨ sign = ['-'] := by
    rcases isSign with rfl | rfl | rfl
    · exact .inl rfl
    · exact .inr rfl
    · exact absurd rfl head
  have toDecimal {digits : List Char} (each : ∀ c ∈ digits, c.isDigit = true) :
      ∀ c ∈ digits, isDecimalDigit c = true :=
    fun c member => isDecimalDigit_of_isDigit (each c member)
  cases form with
  | whole isSign areDigits isExponent =>
      exact .number (noPlus isSign plain.noPlus) areDigits.notEmpty (toDecimal areDigits.each)
        .nothing isExponent
  | @point sign before after exponent isSign eachBefore eachAfter someDigits isExponent =>
      obtain ⟨⟨last, isLast, lastDigit⟩, ⟨first, isFirst, firstDigit⟩⟩ :=
        plain.digitsAround (sign ++ before) (after ++ exponent) (by simp)
      have someBefore : before ≠ [] := by
        rintro rfl
        rw [List.append_nil] at isLast
        rcases forall_mem_sign isSign last (List.mem_of_mem_getLast? isLast) with rfl | rfl
        · exact absurd lastDigit (by decide)
        · exact absurd lastDigit (by decide)
      have someAfter : after ≠ [] := by
        rintro rfl
        rcases isExponent.head first isFirst with rfl | rfl
        · exact absurd firstDigit (by decide)
        · exact absurd firstDigit (by decide)
      obtain ⟨c, group, rfl⟩ := List.exists_cons_of_ne_nil someAfter
      have number := NumberForm.number (noPlus isSign plain.noPlus) someBefore
        (toDecimal eachBefore) (.digits (toDecimal eachAfter)) isExponent
      simpa using number

theorem LiteralForm.numberForm_iff {text : List Char} (form : LiteralForm text) :
    NumberForm text ↔ IsPlainLiteral text := by
  constructor
  · exact NumberForm.isPlainLiteral
  · exact form.numberForm

/-- A literal is a sign and digits before a point, an exponent or its end. -/
theorem LiteralForm.exists_digits {text : List Char} (form : LiteralForm text) :
    ∃ sign digits rest, (∀ c ∈ sign, c = '-' ∨ c = '+') ∧ (∀ c ∈ digits, isDecimalDigit c = true) ∧
      (∀ c ∈ rest.head?, c = '.' ∨ c = 'e' ∨ c = 'E') ∧ text = sign ++ (digits ++ rest) := by
  cases form with
  | @whole sign digits exponent isSign areDigits isExponent =>
      exact ⟨sign, digits, exponent, forall_mem_sign isSign,
        fun c member => isDecimalDigit_of_isDigit (areDigits.each c member),
        fun c member => .inr (isExponent.head c member), rfl⟩
  | @point sign before after exponent isSign eachBefore eachAfter someDigits isExponent =>
      exact ⟨sign, before, '.' :: (after ++ exponent), forall_mem_sign isSign,
        fun c member => isDecimalDigit_of_isDigit (eachBefore c member), by simp, rfl⟩

theorem Calendar.DateParts.Form.exists_hyphen {parts : DateParts} {text : List Char}
    (form : parts.Form isDecimalDigit text) (hasMonth : parts.month.isSome = true) :
    ∃ year rest, IsGroup isDecimalDigit 4 4 year ∧ text = year ++ '-' :: rest := by
  cases form with
  | year isYear => cases hasMonth
  | month isYear isMonth => exact ⟨_, _, isYear, rfl⟩
  | day isYear isMonth isDay => exact ⟨_, _, isYear, rfl⟩
  | moment isYear isMonth isDay isMark isTime => exact ⟨_, _, isYear, rfl⟩

/-- No literal is a date with a month: behind its first digits there is no hyphen. -/
theorem LiteralForm.not_date {text : List Char} (form : LiteralForm text) {parts : DateParts}
    (isDate : parts.Form isDecimalDigit text) (hasMonth : parts.month.isSome = true) : False := by
  obtain ⟨sign, digits, rest, isSign, each, isRest, rfl⟩ := form.exists_digits
  obtain ⟨year, behind, isYear, same⟩ := isDate.exists_hyphen hasMonth
  cases sign with
  | nil =>
      have restEnds : EndsGroup rest := by
        intro c member
        rcases isRest c member with rfl | rfl | rfl
        · decide
        · decide
        · decide
      have dropped := congrArg (List.dropWhile isDecimalDigit) same
      rw [List.nil_append, List.dropWhile_append_of_pos each,
        List.dropWhile_append_of_pos isYear.digits, restEnds.dropWhile,
        (hyphen_endsGroup behind).dropWhile] at dropped
      have head := isRest '-' (by simp [dropped])
      exact absurd head (by decide)
  | cons mark others =>
      have someYear : year ≠ [] := List.ne_nil_of_length_pos (by have := isYear.atLeast; omega)
      obtain ⟨first, years, rfl⟩ := List.exists_cons_of_ne_nil someYear
      injection same with sameFirst
      have isDigit := isYear.digits first List.mem_cons_self
      rw [← sameFirst] at isDigit
      rcases isSign mark List.mem_cons_self with rfl | rfl
      · exact absurd isDigit (by decide)
      · exact absurd isDigit (by decide)

theorem LiteralForm.ne_wildcard {text : List Char} (form : LiteralForm text) :
    text ≠ usualSyntax.range.wildcard.toList := by
  rintro rfl
  have character := form.characters '*' (by decide)
  exact absurd character (by decide)

/-- The literals that may stand at an end of a range are the plain ones. -/
theorem LiteralForm.endForm_iff {text : List Char} (form : LiteralForm text) :
    usualSyntax.range.EndForm text ↔ IsPlainLiteral text := by
  rw [← form.numberForm_iff]
  constructor
  · rintro (isWildcard | ⟨isDate, hasMonth⟩ | isNumber)
    · exact absurd isWildcard form.ne_wildcard
    · exact (form.not_date isDate hasMonth).elim
    · exact isNumber
  · intro isNumber
    exact .inr (.number isNumber)

/-! ## Ranges of numbers -/

section Between

variable {type : ValueType} {expected : String} {left right text : String}
  {lower upper value : TypedValue}

theorem literalForm_of_readScalar (isNumber : type.numberWord? = some expected)
    (read : readScalar type text = .ok value) : LiteralForm (trimBlanks text.toList) := by
  rw [ValueType.readScalar_number isNumber, orMalformed_eq_ok_iff] at read
  exact ValueType.literalForm_of_readNumber? read

/-- Blanks around a number do not count. -/
theorem readScalar_trim (isNumber : type.numberWord? = some expected)
    (read : readScalar type text = .ok value) : readScalar type (trim text) = .ok value := by
  rw [ValueType.readScalar_number isNumber, orMalformed_eq_ok_iff] at read ⊢
  rw [trim, String.toList_ofList, (noBlankEnds_trimBlanks text.toList).trimBlanks]
  exact read

/-- A text that is read as a number has no comma. -/
theorem comma_not_mem_of_readScalar (isNumber : type.numberWord? = some expected)
    (read : readScalar type text = .ok value) : ',' ∉ text.toList := by
  have form := literalForm_of_readScalar isNumber read
  obtain ⟨front, back, frontBlank, backBlank, split⟩ := exists_trimBlanks text.toList
  rw [split, List.mem_append, List.mem_append]
  rintro ((inFront | inside) | inBack)
  · exact absurd (frontBlank ',' inFront) (by decide)
  · exact absurd (form.characters ',' inside) (by decide)
  · exact absurd (backBlank ',' inBack) (by decide)

theorem matches_bound_trimBlanks_iff (isNumber : type.numberWord? = some expected)
    (read : readScalar type text = .ok value) :
    Pattern.Matches usualSyntax.range.bound (trimBlanks text.toList) ↔
      IsPlainLiteral (trimBlanks text.toList) := by
  have form := literalForm_of_readScalar isNumber read
  exact matches_bound_iff.trans form.endForm_iff

/-- A literal as a bound is the number that it is alone. -/
theorem readBound_trim (isNumber : type.numberWord? = some expected)
    (read : readScalar type text = .ok value) (day : Period → Date) :
    usualSyntax.readBound type day (trim text) = .ok (some value) := by
  have form := literalForm_of_readScalar isNumber read
  have notWildcard : trim text ≠ usualSyntax.range.wildcard := by
    intro same
    apply form.ne_wildcard
    rw [← same, trim, String.toList_ofList]
  have notDate := (ValueType.supportsRanges_number isNumber).2
  unfold FilterSyntax.readBound
  rw [if_neg notWildcard]
  split
  · exact absurd rfl notDate
  · exact map_eq_ok_iff.2 ⟨value, readScalar_trim isNumber read, rfl⟩

/-- A text with a comma that is no range is no number either. -/
theorem readCondition_of_not_range (isNumber : type.numberWord? = some expected)
    (noRange : usualSyntax.range.split? text = none) (hasComma : ',' ∈ text.toList) :
    usualSyntax.readCondition type text = .error (.value (.malformed text expected)) := by
  have notDate := (ValueType.supportsRanges_number isNumber).2
  have refused : readScalar type text = .error (.value (.malformed text expected)) := by
    rw [ValueType.readScalar_number isNumber]
    cases found : type.readNumber? (trimBlanks text.toList) with
    | none => rfl
    | some value =>
        have read : readScalar type text = .ok value := by
          rw [ValueType.readScalar_number isNumber, found]
          rfl
        exact absurd hasComma (comma_not_mem_of_readScalar isNumber read)
  unfold FilterSyntax.readCondition
  rw [noRange]
  dsimp only
  split
  · exact absurd rfl notDate
  · rw [refused]
    rfl

/-- **Two literals around a comma are a range exactly if both are plain.** Of two texts that are
read as numbers of a type when they stand alone, the text with a comma between them is read as the
range from the one number to the other exactly if neither literal begins with a plus sign and each
point in them stands between two digits. Otherwise it is no range for the patterns of bounds, and is
refused as no number. -/
theorem number_ranges_iff (isNumber : type.numberWord? = some expected)
    (isLower : readScalar type left = .ok lower) (isUpper : readScalar type right = .ok upper) :
    (usualSyntax.readCondition type (left ++ "," ++ right) =
        .ok (.between (some lower) (some upper)) ↔
      IsPlainLiteral (trimBlanks left.toList) ∧ IsPlainLiteral (trimBlanks right.toList)) ∧
    (¬ (IsPlainLiteral (trimBlanks left.toList) ∧ IsPlainLiteral (trimBlanks right.toList)) →
      usualSyntax.readCondition type (left ++ "," ++ right) =
        .error (.value (.malformed (left ++ "," ++ right) expected))) := by
  have noLeftComma := comma_not_mem_of_readScalar isNumber isLower
  have noRightComma := comma_not_mem_of_readScalar isNumber isUpper
  have leftBound := matches_bound_trimBlanks_iff isNumber isLower
  have rightBound := matches_bound_trimBlanks_iff isNumber isUpper
  have supported := (ValueType.supportsRanges_number isNumber).1
  have accepted (plain : IsPlainLiteral (trimBlanks left.toList) ∧
      IsPlainLiteral (trimBlanks right.toList)) :
      usualSyntax.readCondition type (left ++ "," ++ right) =
        .ok (.between (some lower) (some upper)) := by
    have cut : usualSyntax.range.split? (left ++ "," ++ right) = some (trim left, trim right) :=
      RangeSyntax.split?_between wildcardEnds_usualSyntax comma_mem_separator noLeftComma
        noRightComma (leftBound.2 plain.1) (rightBound.2 plain.2)
    unfold FilterSyntax.readCondition
    rw [cut]
    apply (FilterSyntax.readRange_eq_ok_iff supported).2
    exact ⟨_, _, readBound_trim isNumber isLower Period.first,
      readBound_trim isNumber isUpper Period.last, rfl⟩
  have refused (notPlain : ¬ (IsPlainLiteral (trimBlanks left.toList) ∧
      IsPlainLiteral (trimBlanks right.toList))) :
      usualSyntax.readCondition type (left ++ "," ++ right) =
        .error (.value (.malformed (left ++ "," ++ right) expected)) := by
    have noRange : usualSyntax.range.split? (left ++ "," ++ right) = none := by
      rw [RangeSyntax.split?_eq_none_iff]
      intro first second reads
      obtain ⟨isFirst, isSecond, rfl, rfl⟩ := (RangeSyntax.reads_between_iff
        wildcardEnds_usualSyntax comma_mem_separator noLeftComma noRightComma).1 reads
      exact notPlain ⟨leftBound.1 isFirst, rightBound.1 isSecond⟩
    exact readCondition_of_not_range isNumber noRange (by simp)
  refine ⟨⟨fun read => ?_, accepted⟩, refused⟩
  by_contra notPlain
  rw [refused notPlain] at read
  cases read

end Between

namespace Observations

/-- A range with a minus sign, leading zeros and blanks, and one with a plus sign. -/
theorem number_ranges_iff_signed :
    usualSyntax.readCondition .integer " -3,007 " =
        .ok (.between (some (.integer (-3))) (some (.integer 7))) ∧
      usualSyntax.readCondition .integer "+3,007 " =
        .error (.value (.malformed "+3,007 " "integer")) := by
  have negative : readScalar .integer " -3" = .ok (.integer (-3)) := by decide +kernel
  have positive : readScalar .integer "+3" = .ok (.integer 3) := by decide +kernel
  have seven : readScalar .integer "007 " = .ok (.integer 7) := by decide +kernel
  have plain {text : List Char} (noPlus : text.head? ≠ some '+') (noPoint : '.' ∉ text) :
      IsPlainLiteral text :=
    ⟨noPlus, fun front back split => absurd (by simp [split]) noPoint⟩
  have negativePlain : IsPlainLiteral (trimBlanks " -3".toList) := plain (by decide) (by decide)
  have sevenPlain : IsPlainLiteral (trimBlanks "007 ".toList) := plain (by decide) (by decide)
  constructor
  · exact (number_ranges_iff rfl negative seven).1.2 ⟨negativePlain, sevenPlain⟩
  · apply (number_ranges_iff rfl positive seven).2
    intro bothPlain
    exact bothPlain.1.noPlus rfl

/-- Two integers with plus signs are integers alone, but no ends of a range, and so are numbers
without a digit on one side of the point. -/
theorem signed_bounds_refused :
    readScalar .integer "+1" = .ok (.integer 1) ∧ readScalar .integer "+5" = .ok (.integer 5) ∧
      usualSyntax.readCondition .integer "+1,+5" = .error (.value (.malformed "+1,+5" "integer")) ∧
      (readScalar .double ".5").isOk = true ∧ (readScalar .double "1.").isOk = true ∧
      usualSyntax.readCondition .double ".5,1." = .error (.value (.malformed ".5,1." "double")) := by
  decide +kernel

end Observations

end FacetedSearch
