import FacetedSearch.Calendar.PartialDate

/-!
Contract: the texts that have the form of a partial date.

Owns:
- `IsGroup`, the digits of one number, and what `digitGroup?` reads of a text that begins with them;
- `OffsetForm`, `FractionForm`, `TimeForm` and `DateParts.Form`, how offsets, fractions of a second,
  times of day and partial dates are written, for any class of digits;
- `read?_eq_some_iff`: the digit groups of a text are those of its form;
- `DateParts.Form.mono` and `DateParts.Form.characters`: the class of digits matters only for the
  digits of a text, and its other characters are few.

Does not own: the numbers that the groups stand for.
-/

namespace FacetedSearch.Calendar

open FacetedSearch.Text

/-! ## Digit groups -/

/-- Some digits, as many as the bounds admit. -/
structure IsGroup (isDigit : Char → Bool) (least most : Nat) (group : List Char) : Prop where
  digits : ∀ c ∈ group, isDigit c = true
  atLeast : least ≤ group.length
  atMost : group.length ≤ most

/-- A text that no digit begins. -/
def EndsGroup (rest : List Char) : Prop :=
  ∀ c ∈ rest.head?, isDecimalDigit c = false

@[simp] theorem endsGroup_nil : EndsGroup [] := by
  simp [EndsGroup]

@[simp] theorem endsGroup_cons_iff {c : Char} {rest : List Char} :
    EndsGroup (c :: rest) ↔ isDecimalDigit c = false := by
  simp [EndsGroup]

theorem EndsGroup.takeWhile {rest : List Char} (ends : EndsGroup rest) :
    rest.takeWhile isDecimalDigit = [] := by
  cases rest with
  | nil => rfl
  | cons c rest => exact List.takeWhile_cons_of_neg (by simpa using ends)

theorem EndsGroup.dropWhile {rest : List Char} (ends : EndsGroup rest) :
    rest.dropWhile isDecimalDigit = rest := by
  cases rest with
  | nil => rfl
  | cons c rest => exact List.dropWhile_cons_of_neg (by simpa using ends)

theorem digitGroup?_append {least most : Nat} {group rest : List Char}
    (digits : ∀ c ∈ group, isDecimalDigit c = true) (ends : EndsGroup rest) :
    digitGroup? least most (group ++ rest) =
      if least ≤ group.length ∧ group.length ≤ most then some (group, rest) else none := by
  unfold digitGroup?
  rw [List.takeWhile_append_of_pos digits, List.dropWhile_append_of_pos digits, ends.takeWhile,
    ends.dropWhile, List.append_nil]

theorem IsGroup.digitGroup? {least most : Nat} {group rest : List Char}
    (isGroup : IsGroup isDecimalDigit least most group) (ends : EndsGroup rest) :
    digitGroup? least most (group ++ rest) = some (group, rest) := by
  rw [digitGroup?_append isGroup.digits ends, if_pos ⟨isGroup.atLeast, isGroup.atMost⟩]

theorem of_digitGroup?_eq_some {least most : Nat} {text group rest : List Char}
    (found : digitGroup? least most text = some (group, rest)) :
    IsGroup isDecimalDigit least most group ∧ text = group ++ rest := by
  unfold Calendar.digitGroup? at found
  dsimp only at found
  split at found
  · rename_i bounds
    cases found
    exact ⟨⟨List.all_eq_true.1 List.all_takeWhile, bounds.1, bounds.2⟩,
      (List.takeWhile_append_dropWhile ..).symm⟩
  · cases found

namespace IsGroup

variable {isDigit : Char → Bool} {least most : Nat} {group : List Char}

theorem mono {other : Char → Bool} (isGroup : IsGroup isDigit least most group)
    (among : ∀ c ∈ group, isDigit c = true → other c = true) : IsGroup other least most group :=
  ⟨fun c member => among c member (isGroup.digits c member), isGroup.atLeast, isGroup.atMost⟩

theorem append {otherLeast otherMost : Nat} {other : List Char}
    (isGroup : IsGroup isDigit least most group)
    (isOther : IsGroup isDigit otherLeast otherMost other) :
    IsGroup isDigit (least + otherLeast) (most + otherMost) (group ++ other) where
  digits := by
    intro c member
    exact (List.mem_append.1 member).elim (isGroup.digits c) (isOther.digits c)
  atLeast := by
    have first := isGroup.atLeast
    have second := isOther.atLeast
    rw [List.length_append]
    omega
  atMost := by
    have first := isGroup.atMost
    have second := isOther.atMost
    rw [List.length_append]
    omega

/-- Groups of a fixed length can be cut at each place. -/
theorem exists_append (first second : Nat)
    (isGroup : IsGroup isDigit (first + second) (first + second) group) :
    ∃ left right, IsGroup isDigit first first left ∧ IsGroup isDigit second second right ∧
      group = left ++ right := by
  have least := isGroup.atLeast
  have most := isGroup.atMost
  refine ⟨group.take first, group.drop first, ⟨?_, ?_, ?_⟩, ⟨?_, ?_, ?_⟩,
    (List.take_append_drop first group).symm⟩
  · exact fun c member => isGroup.digits c (List.mem_of_mem_take member)
  · rw [List.length_take]
    omega
  · rw [List.length_take]
    omega
  · exact fun c member => isGroup.digits c (List.mem_of_mem_drop member)
  · rw [List.length_drop]
    omega
  · rw [List.length_drop]
    omega

end IsGroup

/-! ## Forms -/

section Forms

variable (isDigit : Char → Bool)

/-- How an offset from universal time is written: not at all, as the mark of none, or as signed
hours and minutes. -/
inductive OffsetForm : List Char → Prop where
  | nothing : OffsetForm []
  | universal : OffsetForm ['Z']
  | numeric {sign : Char} {hours colon minutes : List Char} (isSign : sign = '+' ∨ sign = '-')
      (isHours : IsGroup isDigit 2 2 hours) (isColon : colon = [] ∨ colon = [':'])
      (isMinutes : IsGroup isDigit 2 2 minutes) :
      OffsetForm (sign :: (hours ++ (colon ++ minutes)))

/-- How a fraction of a second is written, if at all. -/
inductive FractionForm : List Char → Prop where
  | nothing : FractionForm []
  | digits {c : Char} {group : List Char} (each : ∀ d ∈ c :: group, isDigit d = true) :
      FractionForm ('.' :: c :: group)

/-- How a time of day is written, given its digit groups. -/
inductive TimeForm : List Char → List Char → Option (List Char) → List Char → Prop where
  | minutes {hour minute offset : List Char} (isHour : IsGroup isDigit 1 2 hour)
      (isMinute : IsGroup isDigit 2 2 minute) (isOffset : OffsetForm isDigit offset) :
      TimeForm hour minute none (hour ++ ':' :: (minute ++ offset))
  | seconds {hour minute second fraction offset : List Char} (isHour : IsGroup isDigit 1 2 hour)
      (isMinute : IsGroup isDigit 2 2 minute) (isSecond : IsGroup isDigit 2 2 second)
      (isFraction : FractionForm isDigit fraction) (isOffset : OffsetForm isDigit offset) :
      TimeForm hour minute (some second)
        (hour ++ ':' :: (minute ++ ':' :: (second ++ (fraction ++ offset))))

/-- How a partial date is written, given its digit groups. -/
inductive DateParts.Form : DateParts → List Char → Prop where
  | year {year : List Char} (isYear : IsGroup isDigit 4 4 year) :
      Form ⟨year, none, none, none, none, none⟩ year
  | month {year month : List Char} (isYear : IsGroup isDigit 4 4 year)
      (isMonth : IsGroup isDigit 1 2 month) :
      Form ⟨year, some month, none, none, none, none⟩ (year ++ '-' :: month)
  | day {year month day : List Char} (isYear : IsGroup isDigit 4 4 year)
      (isMonth : IsGroup isDigit 1 2 month) (isDay : IsGroup isDigit 1 2 day) :
      Form ⟨year, some month, some day, none, none, none⟩ (year ++ '-' :: (month ++ '-' :: day))
  | moment {year month day hour minute time : List Char} {second : Option (List Char)} {mark : Char}
      (isYear : IsGroup isDigit 4 4 year) (isMonth : IsGroup isDigit 1 2 month)
      (isDay : IsGroup isDigit 1 2 day) (isMark : mark = 'T' ∨ mark = ' ')
      (isTime : TimeForm isDigit hour minute second time) :
      Form ⟨year, some month, some day, some hour, some minute, second⟩
        (year ++ '-' :: (month ++ '-' :: (day ++ mark :: time)))

end Forms

/-! ## Offsets and fractions -/

theorem OffsetForm.head {isDigit : Char → Bool} {offset : List Char}
    (form : OffsetForm isDigit offset) :
    ∀ c ∈ offset.head?, c = 'Z' ∨ c = '+' ∨ c = '-' := by
  cases form with
  | nothing => simp
  | universal => simp
  | numeric isSign isHours isColon isMinutes => simpa using .inr isSign

theorem OffsetForm.endsGroup {isDigit : Char → Bool} {offset : List Char}
    (form : OffsetForm isDigit offset) : EndsGroup offset := by
  intro c member
  rcases form.head c member with rfl | rfl | rfl <;> decide

theorem offsetForm_of_isOffset {text : List Char} (isOffset : isOffset text = true) :
    OffsetForm isDecimalDigit text := by
  unfold Calendar.isOffset at isOffset
  split at isOffset
  · exact .nothing
  · exact .universal
  · rename_i sign rest _
    rw [Bool.and_eq_true, Bool.or_eq_true, beq_iff_eq, beq_iff_eq] at isOffset
    obtain ⟨isSign, isRest⟩ := isOffset
    split at isRest
    · rename_i group behind found
      obtain ⟨isGroup, rfl⟩ := of_digitGroup?_eq_some found
      obtain ⟨hours, minutes, isHours, isMinutes, rfl⟩ :=
        IsGroup.exists_append 2 2 isGroup
      rw [List.isEmpty_iff] at isRest
      subst isRest
      simpa using OffsetForm.numeric isSign isHours (.inl rfl) isMinutes
    · split at isRest
      · rename_i hours behind found
        split at isRest
        · rename_i minutes foundMinutes
          obtain ⟨isHours, rfl⟩ := of_digitGroup?_eq_some found
          obtain ⟨isMinutes, rfl⟩ := of_digitGroup?_eq_some foundMinutes
          simpa using OffsetForm.numeric isSign isHours (.inr rfl) isMinutes
        · cases isRest
      · cases isRest

theorem isOffset_of_offsetForm {text : List Char} (form : OffsetForm isDecimalDigit text) :
    isOffset text = true := by
  cases form with
  | nothing => rfl
  | universal => rfl
  | @numeric sign hours colon minutes isSign isHours isColon isMinutes =>
      have notUniversal : sign ≠ 'Z' := by
        rcases isSign with rfl | rfl <;> decide
      have atEnd : digitGroup? 2 2 minutes = some (minutes, []) := by
        simpa using isMinutes.digitGroup? endsGroup_nil
      rcases isColon with rfl | rfl
      · have together : digitGroup? 4 4 (hours ++ minutes) = some (hours ++ minutes, []) := by
          simpa using (isHours.append isMinutes).digitGroup? endsGroup_nil
        simp [isOffset, notUniversal, isSign, together]
      · have colonEnds : EndsGroup (':' :: minutes) := endsGroup_cons_iff.2 (by decide)
        have tooShort : digitGroup? 4 4 (hours ++ ':' :: minutes) = none := by
          have most := isHours.atMost
          rw [digitGroup?_append isHours.digits colonEnds, if_neg (by omega)]
        have apart := isHours.digitGroup? colonEnds
        simp [isOffset, notUniversal, isSign, tooShort, apart, atEnd]

theorem exists_of_skipFraction (text : List Char) :
    ∃ fraction, FractionForm isDecimalDigit fraction ∧ text = fraction ++ skipFraction text := by
  unfold skipFraction
  split
  · rename_i rest
    dsimp only
    split
    · rename_i shorter
      cases taken : rest.takeWhile isDecimalDigit with
      | nil =>
          have whole := List.takeWhile_append_dropWhile (p := isDecimalDigit) (l := rest)
          rw [taken, List.nil_append] at whole
          rw [whole] at shorter
          exact absurd shorter (Nat.lt_irrefl _)
      | cons c group =>
          refine ⟨'.' :: c :: group, .digits (taken ▸ List.all_eq_true.1 List.all_takeWhile), ?_⟩
          rw [← taken, List.cons_append, List.takeWhile_append_dropWhile]
    · exact ⟨[], .nothing, rfl⟩
  · exact ⟨[], .nothing, rfl⟩

theorem skipFraction_point (rest : List Char) :
    skipFraction ('.' :: rest) =
      if (rest.dropWhile isDecimalDigit).length < rest.length then rest.dropWhile isDecimalDigit
      else '.' :: rest :=
  rfl

theorem skipFraction_append {fraction offset : List Char}
    (isFraction : FractionForm isDecimalDigit fraction)
    (isOffset : OffsetForm isDecimalDigit offset) : skipFraction (fraction ++ offset) = offset := by
  cases isFraction with
  | nothing =>
      unfold skipFraction
      rw [List.nil_append]
      split
      · rcases isOffset.head '.' rfl with same | same | same <;> cases same
      · rfl
  | @digits c group each =>
      have dropped : (c :: (group ++ offset)).dropWhile isDecimalDigit = offset :=
        (List.dropWhile_append_of_pos each).trans isOffset.endsGroup.dropWhile
      rw [List.cons_append, List.cons_append, skipFraction_point, dropped, if_pos]
      rw [List.length_cons, List.length_append]
      omega

/-! ## Times of day -/

theorem timeForm_of_readTime? {text hour minute : List Char} {second : Option (List Char)}
    (read : readTime? text = some (hour, minute, second)) :
    TimeForm isDecimalDigit hour minute second text := by
  unfold readTime? at read
  split at read
  · rename_i foundHour afterHour hourRead
    obtain ⟨isHour, rfl⟩ := of_digitGroup?_eq_some hourRead
    split at read
    · rename_i foundMinute afterMinute minuteRead
      obtain ⟨isMinute, rfl⟩ := of_digitGroup?_eq_some minuteRead
      split at read
      · rename_i foundSecond rest secondRead
        obtain ⟨isSecond, rfl⟩ := of_digitGroup?_eq_some secondRead
        split at read
        · rename_i isOffset
          obtain ⟨fraction, isFraction, split⟩ := exists_of_skipFraction rest
          cases read
          rw [split]
          exact .seconds isHour isMinute isSecond isFraction (offsetForm_of_isOffset isOffset)
        · cases read
      · cases read
    · rename_i foundMinute rest _ minuteRead
      obtain ⟨isMinute, rfl⟩ := of_digitGroup?_eq_some minuteRead
      split at read
      · rename_i isOffset
        cases read
        exact .minutes isHour isMinute (offsetForm_of_isOffset isOffset)
      · cases read
    · cases read
  · cases read

theorem colon_endsGroup (rest : List Char) : EndsGroup (':' :: rest) :=
  endsGroup_cons_iff.2 (by decide)

theorem readTime?_of_timeForm {text hour minute : List Char} {second : Option (List Char)}
    (form : TimeForm isDecimalDigit hour minute second text) :
    readTime? text = some (hour, minute, second) := by
  cases form with
  | @minutes offset isHour isMinute isOffset =>
      have hourRead := isHour.digitGroup? (colon_endsGroup (minute ++ offset))
      have minuteRead := isMinute.digitGroup? isOffset.endsGroup
      have offsetRead := isOffset_of_offsetForm isOffset
      simp only [readTime?, hourRead, minuteRead]
      split
      · rename_i same
        cases same
        rcases isOffset.head ':' rfl with same | same | same <;> cases same
      · rename_i same
        cases same
        rw [if_pos offsetRead]
      · rename_i same
        cases same
  | @seconds second fraction offset isHour isMinute isSecond isFraction isOffset =>
      have hourRead := isHour.digitGroup?
        (colon_endsGroup (minute ++ ':' :: (second ++ (fraction ++ offset))))
      have minuteRead := isMinute.digitGroup? (colon_endsGroup (second ++ (fraction ++ offset)))
      have ends : EndsGroup (fraction ++ offset) := by
        cases isFraction with
        | nothing => exact isOffset.endsGroup
        | digits each => exact endsGroup_cons_iff.2 (by decide)
      have secondRead := isSecond.digitGroup? ends
      have skipped := skipFraction_append isFraction isOffset
      have offsetRead := isOffset_of_offsetForm isOffset
      simp only [readTime?, hourRead, minuteRead, secondRead, skipped, offsetRead, if_true]

/-! ## Partial dates -/

theorem form_of_read? {text : List Char} {parts : DateParts}
    (read : DateParts.read? text = some parts) : parts.Form isDecimalDigit text := by
  unfold DateParts.read? at read
  split at read
  · rename_i year yearRead
    obtain ⟨isYear, rfl⟩ := of_digitGroup?_eq_some yearRead
    cases read
    simpa using DateParts.Form.year isYear
  · rename_i year afterYear yearRead
    obtain ⟨isYear, rfl⟩ := of_digitGroup?_eq_some yearRead
    split at read
    · rename_i month monthRead
      obtain ⟨isMonth, rfl⟩ := of_digitGroup?_eq_some monthRead
      cases read
      simpa using DateParts.Form.month isYear isMonth
    · rename_i month afterMonth monthRead
      obtain ⟨isMonth, rfl⟩ := of_digitGroup?_eq_some monthRead
      split at read
      · rename_i day dayRead
        obtain ⟨isDay, rfl⟩ := of_digitGroup?_eq_some dayRead
        cases read
        simpa using DateParts.Form.day isYear isMonth isDay
      · rename_i day mark afterDay dayRead
        obtain ⟨isDay, rfl⟩ := of_digitGroup?_eq_some dayRead
        split at read
        · rename_i isMark
          obtain ⟨⟨hour, minute, second⟩, timeRead, isParts⟩ := Option.map_eq_some_iff.1 read
          cases isParts
          exact .moment isYear isMonth isDay isMark (timeForm_of_readTime? timeRead)
        · cases read
      · cases read
    · cases read
  · cases read

theorem hyphen_endsGroup (rest : List Char) : EndsGroup ('-' :: rest) :=
  endsGroup_cons_iff.2 (by decide)

theorem read?_of_form {text : List Char} {parts : DateParts}
    (form : parts.Form isDecimalDigit text) : DateParts.read? text = some parts := by
  cases form with
  | year isYear =>
      have yearRead := isYear.digitGroup? endsGroup_nil
      rw [List.append_nil] at yearRead
      simp only [DateParts.read?, yearRead]
  | @month year month isYear isMonth =>
      have yearRead := isYear.digitGroup? (hyphen_endsGroup month)
      have monthRead := isMonth.digitGroup? endsGroup_nil
      rw [List.append_nil] at monthRead
      simp only [DateParts.read?, yearRead, monthRead]
  | @day year month day isYear isMonth isDay =>
      have yearRead := isYear.digitGroup? (hyphen_endsGroup (month ++ '-' :: day))
      have monthRead := isMonth.digitGroup? (hyphen_endsGroup day)
      have dayRead := isDay.digitGroup? endsGroup_nil
      rw [List.append_nil] at dayRead
      simp only [DateParts.read?, yearRead, monthRead, dayRead]
  | @moment year month day hour minute time second mark isYear isMonth isDay isMark isTime =>
      have yearRead := isYear.digitGroup?
        (hyphen_endsGroup (month ++ '-' :: (day ++ mark :: time)))
      have monthRead := isMonth.digitGroup? (hyphen_endsGroup (day ++ mark :: time))
      have markEnds : EndsGroup (mark :: time) := by
        rcases isMark with rfl | rfl <;> exact endsGroup_cons_iff.2 (by decide)
      have dayRead := isDay.digitGroup? markEnds
      have timeRead := readTime?_of_timeForm isTime
      simp only [DateParts.read?, yearRead, monthRead, dayRead, if_pos isMark, timeRead,
        Option.map_some]

/-- The digit groups that are read of a text are those of its form. -/
theorem read?_eq_some_iff {text : List Char} {parts : DateParts} :
    DateParts.read? text = some parts ↔ parts.Form isDecimalDigit text :=
  ⟨form_of_read?, read?_of_form⟩

/-! ## Classes of digits -/

section Classes

variable {isDigit other : Char → Bool} {text : List Char}

theorem OffsetForm.mono (form : OffsetForm isDigit text)
    (among : ∀ c ∈ text, isDigit c = true → other c = true) : OffsetForm other text := by
  cases form with
  | nothing => exact .nothing
  | universal => exact .universal
  | numeric isSign isHours isColon isMinutes =>
      exact .numeric isSign (isHours.mono fun c member => among c (by simp [member])) isColon
        (isMinutes.mono fun c member => among c (by simp [member]))

theorem FractionForm.mono (form : FractionForm isDigit text)
    (among : ∀ c ∈ text, isDigit c = true → other c = true) : FractionForm other text := by
  cases form with
  | nothing => exact .nothing
  | digits each => exact .digits fun c member => among c (.tail _ member) (each c member)

theorem TimeForm.mono {hour minute : List Char} {second : Option (List Char)}
    (form : TimeForm isDigit hour minute second text)
    (among : ∀ c ∈ text, isDigit c = true → other c = true) :
    TimeForm other hour minute second text := by
  cases form with
  | minutes isHour isMinute isOffset =>
      exact .minutes (isHour.mono fun c member => among c (by simp [member]))
        (isMinute.mono fun c member => among c (by simp [member]))
        (isOffset.mono fun c member => among c (by simp [member]))
  | seconds isHour isMinute isSecond isFraction isOffset =>
      exact .seconds (isHour.mono fun c member => among c (by simp [member]))
        (isMinute.mono fun c member => among c (by simp [member]))
        (isSecond.mono fun c member => among c (by simp [member]))
        (isFraction.mono fun c member => among c (by simp [member]))
        (isOffset.mono fun c member => among c (by simp [member]))

/-- Another class that has the digits of a text admits the same form. -/
theorem DateParts.Form.mono {parts : DateParts} (form : parts.Form isDigit text)
    (among : ∀ c ∈ text, isDigit c = true → other c = true) : parts.Form other text := by
  cases form with
  | year isYear => exact .year (isYear.mono among)
  | month isYear isMonth =>
      exact .month (isYear.mono fun c member => among c (by simp [member]))
        (isMonth.mono fun c member => among c (by simp [member]))
  | day isYear isMonth isDay =>
      exact .day (isYear.mono fun c member => among c (by simp [member]))
        (isMonth.mono fun c member => among c (by simp [member]))
        (isDay.mono fun c member => among c (by simp [member]))
  | moment isYear isMonth isDay isMark isTime =>
      exact .moment (isYear.mono fun c member => among c (by simp [member]))
        (isMonth.mono fun c member => among c (by simp [member]))
        (isDay.mono fun c member => among c (by simp [member])) isMark
        (isTime.mono fun c member => among c (by simp [member]))

/-- The characters of dates and times besides digits. -/
def dateMarks : List Char :=
  ['-', '+', ':', '.', 'T', ' ', 'Z']

/-- A digit or a mark of dates and times. -/
def IsDateCharacter (isDigit : Char → Bool) (c : Char) : Prop :=
  isDigit c = true ∨ c ∈ dateMarks

theorem IsGroup.characters {least most : Nat} (isGroup : IsGroup isDigit least most text) :
    ∀ c ∈ text, IsDateCharacter isDigit c :=
  fun c member => .inl (isGroup.digits c member)

theorem forall_mem_cons_mark {mark : Char} (isMark : mark ∈ dateMarks)
    (each : ∀ c ∈ text, IsDateCharacter isDigit c) :
    ∀ c ∈ mark :: text, IsDateCharacter isDigit c :=
  List.forall_mem_cons.2 ⟨.inr isMark, each⟩

theorem OffsetForm.characters (form : OffsetForm isDigit text) :
    ∀ c ∈ text, IsDateCharacter isDigit c := by
  cases form with
  | nothing => simp
  | universal => exact forall_mem_cons_mark (by decide) (by simp)
  | numeric isSign isHours isColon isMinutes =>
      refine forall_mem_cons_mark (by rcases isSign with rfl | rfl <;> decide) ?_
      refine List.forall_mem_append.2 ⟨isHours.characters, ?_⟩
      rcases isColon with rfl | rfl
      · exact isMinutes.characters
      · exact forall_mem_cons_mark (by decide) isMinutes.characters

theorem FractionForm.characters (form : FractionForm isDigit text) :
    ∀ c ∈ text, IsDateCharacter isDigit c := by
  cases form with
  | nothing => simp
  | digits each => exact forall_mem_cons_mark (by decide) fun c member => .inl (each c member)

theorem TimeForm.characters {hour minute : List Char} {second : Option (List Char)}
    (form : TimeForm isDigit hour minute second text) :
    ∀ c ∈ text, IsDateCharacter isDigit c := by
  cases form with
  | minutes isHour isMinute isOffset =>
      refine List.forall_mem_append.2 ⟨isHour.characters, forall_mem_cons_mark (by decide) ?_⟩
      exact List.forall_mem_append.2 ⟨isMinute.characters, isOffset.characters⟩
  | seconds isHour isMinute isSecond isFraction isOffset =>
      refine List.forall_mem_append.2 ⟨isHour.characters, forall_mem_cons_mark (by decide) ?_⟩
      refine List.forall_mem_append.2 ⟨isMinute.characters, forall_mem_cons_mark (by decide) ?_⟩
      refine List.forall_mem_append.2 ⟨isSecond.characters, ?_⟩
      exact List.forall_mem_append.2 ⟨isFraction.characters, isOffset.characters⟩

theorem DateParts.Form.characters {parts : DateParts} (form : parts.Form isDigit text) :
    ∀ c ∈ text, IsDateCharacter isDigit c := by
  cases form with
  | year isYear => exact isYear.characters
  | month isYear isMonth =>
      refine List.forall_mem_append.2 ⟨isYear.characters, ?_⟩
      exact forall_mem_cons_mark (by decide) isMonth.characters
  | day isYear isMonth isDay =>
      refine List.forall_mem_append.2 ⟨isYear.characters, forall_mem_cons_mark (by decide) ?_⟩
      refine List.forall_mem_append.2 ⟨isMonth.characters, ?_⟩
      exact forall_mem_cons_mark (by decide) isDay.characters
  | moment isYear isMonth isDay isMark isTime =>
      refine List.forall_mem_append.2 ⟨isYear.characters, forall_mem_cons_mark (by decide) ?_⟩
      refine List.forall_mem_append.2 ⟨isMonth.characters, forall_mem_cons_mark (by decide) ?_⟩
      refine List.forall_mem_append.2 ⟨isDay.characters, ?_⟩
      exact forall_mem_cons_mark (by rcases isMark with rfl | rfl <;> decide) isTime.characters

end Classes

end FacetedSearch.Calendar
