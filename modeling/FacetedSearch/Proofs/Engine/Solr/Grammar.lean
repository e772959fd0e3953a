import FacetedSearch.FullText.Term

/-!
Contract: a grammar of filter expressions, and that it is not ambiguous.

An expression is a negated expression, a group of at least two expressions in parentheses with one
connective between them, or a field with an atom. An atom is a token in which whatever has a
meaning is escaped, a text between quotes, or two tokens between brackets.

Owns:
- `Expression`, the derivations of the grammar, and `Expression.chars`, the text of a derivation;
- `Expression.eq_of_chars_eq`: a text has at most one derivation.

The induction is on derivations with anything behind them that cannot extend the last token: the
end of the text, a blank or a closing parenthesis.

Does not own: which texts are written.
-/

namespace FacetedSearch.Solr

open FullText Text

/-! ## Tokens -/

/-- A character without a meaning in the query language that is no blank. Letters, digits and
underscores are such characters. -/
def IsPlain (c : Char) : Prop :=
  c ∉ specialCharacters ∧ isBlank c = false

instance : DecidablePred IsPlain := fun c =>
  inferInstanceAs (Decidable (c ∉ specialCharacters ∧ isBlank c = false))

/-- A character that may stand between quotes as it is. -/
def IsQuotable (c : Char) : Prop :=
  c ≠ '\x22' ∧ c ≠ '\\'

/-- A character of a bound between brackets. -/
def IsBoundCharacter (c : Char) : Prop :=
  isBlank c = false ∧ c ≠ '[' ∧ c ≠ ']'

/-- A text of characters of a class and of any characters behind backslashes. -/
inductive Escaped (plain : Char → Prop) : List Char → Prop where
  | nil : Escaped plain []
  | plain {c : Char} {rest : List Char} (isPlain : plain c) (restEscaped : Escaped plain rest) :
      Escaped plain (c :: rest)
  | escaped (c : Char) {rest : List Char} (restEscaped : Escaped plain rest) :
      Escaped plain ('\\' :: c :: rest)

/-- The name of a field. -/
@[ext]
structure Name where
  chars : List Char
  each : ∀ c ∈ chars, IsPlain c

/-- A token without quotes. -/
@[ext]
structure Token where
  chars : List Char
  notEmpty : chars ≠ []
  escaped : Escaped IsPlain chars

/-- The text between two quotes that are the only ones without a backslash. -/
@[ext]
structure QuotedText where
  chars : List Char
  escaped : Escaped IsQuotable chars

/-- A bound between brackets. -/
@[ext]
structure BoundToken where
  chars : List Char
  notEmpty : chars ≠ []
  each : ∀ c ∈ chars, IsBoundCharacter c

/-! ## Derivations -/

/-- What a field is compared with. -/
inductive Atom where
  | bare (token : Token)
  | quoted (text : QuotedText)
  | between (lower upper : BoundToken)

def Atom.chars : Atom → List Char
  | .bare token => token.chars
  | .quoted text => phrase text.chars
  | .between lower upper => '[' :: lower.chars ++ " TO ".toList ++ upper.chars ++ [']']

/-- The words between the parts of a group. -/
inductive Connective where
  | or
  | and
deriving DecidableEq

def Connective.chars : Connective → List Char
  | .or => " OR ".toList
  | .and => " AND ".toList

/-- A derivation of a filter expression. -/
inductive Expression where
  | not (inner : Expression)
  /-- Two parts or more, with the same word between them. -/
  | group (connective : Connective) (first second : Expression) (rest : List Expression)
  | statement (field : Name) (atom : Atom)

namespace Expression

mutual

/-- The text of a derivation. -/
def chars : Expression → List Char
  | .not inner => '-' :: chars inner
  | .group connective first second rest =>
      '(' :: chars first ++ (connective.chars ++ chars second ++ charsAfter connective rest) ++ [')']
  | .statement field atom => field.chars ++ ':' :: atom.chars

/-- The text of the further parts of a group. -/
def charsAfter (connective : Connective) : List Expression → List Char
  | [] => []
  | part :: rest => connective.chars ++ chars part ++ charsAfter connective rest

end

end Expression

/-! ## Ends of tokens -/

/-- A text whose first character, if it has one, is not of a class. -/
def Stops (plain : Char → Prop) (text : List Char) : Prop :=
  ∀ c ∈ text.head?, ¬ plain c

theorem stops_cons {plain : Char → Prop} {c : Char} {rest : List Char} (notPlain : ¬ plain c) :
    Stops plain (c :: rest) := by
  intro other member
  rw [List.head?_cons, Option.mem_some] at member
  exact member ▸ notPlain

/-- Characters of a class end where the class ends. -/
theorem append_inj_of_each {plain : Char → Prop} {left right leftRest rightRest : List Char}
    (leftEach : ∀ c ∈ left, plain c) (rightEach : ∀ c ∈ right, plain c)
    (leftStops : Stops plain leftRest) (rightStops : Stops plain rightRest)
    (same : left ++ leftRest = right ++ rightRest) : left = right ∧ leftRest = rightRest := by
  induction left generalizing right with
  | nil =>
      cases right with
      | nil => exact ⟨rfl, same⟩
      | cons c right =>
          rw [List.nil_append] at same
          exact absurd (rightEach c List.mem_cons_self) (leftStops c (by simp [same]))
  | cons c left inductionHypothesis =>
      cases right with
      | nil =>
          rw [List.nil_append] at same
          exact absurd (leftEach c List.mem_cons_self) (rightStops c (by simp [← same]))
      | cons d right =>
          injection same with sameHead sameTail
          subst sameHead
          obtain ⟨sameLeft, sameRest⟩ := inductionHypothesis
            (fun other member => leftEach other (List.mem_cons_of_mem c member))
            (fun other member => rightEach other (List.mem_cons_of_mem c member)) sameTail
          exact ⟨by rw [sameLeft], sameRest⟩

/-- Escaped texts end where their class ends: a backslash always takes the next character. -/
theorem Escaped.append_inj {plain : Char → Prop} {left right leftRest rightRest : List Char}
    (notBackslash : ¬ plain '\\') (leftEscaped : Escaped plain left)
    (rightEscaped : Escaped plain right) (leftStops : Stops (fun c => plain c ∨ c = '\\') leftRest)
    (rightStops : Stops (fun c => plain c ∨ c = '\\') rightRest)
    (same : left ++ leftRest = right ++ rightRest) : left = right ∧ leftRest = rightRest := by
  induction leftEscaped generalizing right with
  | nil =>
      rw [List.nil_append] at same
      cases rightEscaped with
      | nil => exact ⟨rfl, same⟩
      | plain isPlain => exact absurd (.inl isPlain) (leftStops _ (by simp [same]))
      | escaped => exact absurd (.inr rfl) (leftStops '\\' (by simp [same]))
  | @plain c rest isPlain _ inductionHypothesis =>
      cases rightEscaped with
      | nil =>
          rw [List.nil_append] at same
          exact absurd (.inl isPlain) (rightStops c (by simp [← same]))
      | plain _ restEscaped =>
          injection same with sameHead sameTail
          obtain ⟨sameLeft, sameRest⟩ := inductionHypothesis restEscaped sameTail
          exact ⟨by rw [sameHead, sameLeft], sameRest⟩
      | escaped =>
          injection same with sameHead sameTail
          exact absurd (sameHead ▸ isPlain) notBackslash
  | @escaped c rest _ inductionHypothesis =>
      cases rightEscaped with
      | nil =>
          rw [List.nil_append] at same
          exact absurd (.inr rfl) (rightStops '\\' (by simp [← same]))
      | plain isPlain =>
          injection same with sameHead sameTail
          exact absurd (sameHead ▸ isPlain) notBackslash
      | escaped _ restEscaped =>
          injection same with _ sameTail
          injection sameTail with sameEscaped sameTail
          obtain ⟨sameLeft, sameRest⟩ := inductionHypothesis restEscaped sameTail
          exact ⟨by rw [sameEscaped, sameLeft], sameRest⟩

theorem not_isPlain_of_mem {c : Char} (special : c ∈ specialCharacters) : ¬ IsPlain c :=
  fun isPlain => isPlain.1 special

theorem not_isPlain_blank : ¬ IsPlain ' ' :=
  fun isPlain => absurd isPlain.2 (by decide)

/-! ## Atoms -/

/-- What can stand behind an expression: nothing, a blank or a closing parenthesis. -/
def Ends (rest : List Char) : Prop :=
  ∀ c ∈ rest.head?, c = ' ' ∨ c = ')'

theorem Ends.stops {rest : List Char} (ends : Ends rest) :
    Stops (fun c => IsPlain c ∨ c = '\\') rest := by
  intro c member
  rcases ends c member with rfl | rfl
  · rintro (isPlain | isBackslash)
    · exact not_isPlain_blank isPlain
    · exact absurd isBackslash (by decide)
  · rintro (isPlain | isBackslash)
    · exact not_isPlain_of_mem (by decide) isPlain
    · exact absurd isBackslash (by decide)

theorem Token.head_eq {token : Token} {rest : List Char} {c : Char} {others : List Char}
    (same : token.chars ++ rest = c :: others) : IsPlain c ∨ c = '\\' := by
  obtain ⟨chars, notEmpty, escaped⟩ := token
  cases escaped with
  | nil => exact absurd rfl notEmpty
  | plain isPlain =>
      injection same with sameHead
      exact .inl (sameHead ▸ isPlain)
  | escaped =>
      injection same with sameHead
      exact .inr sameHead.symm

theorem BoundToken.append_inj {left right : BoundToken} {leftRest rightRest : List Char}
    (leftStops : Stops IsBoundCharacter leftRest) (rightStops : Stops IsBoundCharacter rightRest)
    (same : left.chars ++ leftRest = right.chars ++ rightRest) :
    left = right ∧ leftRest = rightRest := by
  obtain ⟨sameChars, sameRest⟩ :=
    append_inj_of_each left.each right.each leftStops rightStops same
  exact ⟨BoundToken.ext sameChars, sameRest⟩

/-- No token without quotes begins like a text between quotes or a pair of bounds. -/
theorem Token.head_ne {token : Token} {rest others : List Char} {c : Char}
    (special : c ∈ specialCharacters) (notBackslash : c ≠ '\\') :
    token.chars ++ rest ≠ c :: others := by
  intro same
  rcases Token.head_eq same with isPlain | isBackslash
  · exact not_isPlain_of_mem special isPlain
  · exact notBackslash isBackslash

theorem QuotedText.append_inj {left right : QuotedText} {leftRest rightRest : List Char}
    (same : phrase left.chars ++ leftRest = phrase right.chars ++ rightRest) :
    left = right ∧ leftRest = rightRest := by
  have stops (rest : List Char) : Stops (fun c => IsQuotable c ∨ c = '\\') ('\x22' :: rest) := by
    apply stops_cons
    rintro (isQuotable | isBackslash)
    · exact isQuotable.1 rfl
    · exact absurd isBackslash (by decide)
  simp only [phrase, List.cons_append, List.append_assoc, List.nil_append, List.cons.injEq,
    true_and] at same
  obtain ⟨sameChars, sameRest⟩ := left.escaped.append_inj
    (fun isQuotable => isQuotable.2 rfl) right.escaped (stops _) (stops _) same
  injection sameRest with _ sameRest
  exact ⟨QuotedText.ext sameChars, sameRest⟩

theorem Atom.between_append_inj {lower upper otherLower otherUpper : BoundToken}
    {leftRest rightRest : List Char}
    (same : (Atom.between lower upper).chars ++ leftRest =
      (Atom.between otherLower otherUpper).chars ++ rightRest) :
    lower = otherLower ∧ upper = otherUpper ∧ leftRest = rightRest := by
  have stopsAtBlank (rest : List Char) : Stops IsBoundCharacter (" TO ".toList ++ rest) :=
    stops_cons fun isBound => absurd isBound.1 (by decide)
  have stopsAtBracket (rest : List Char) : Stops IsBoundCharacter (']' :: rest) :=
    stops_cons fun isBound => isBound.2.2 rfl
  simp only [Atom.chars, List.cons_append, List.append_assoc, List.nil_append, List.cons.injEq,
    true_and] at same
  obtain ⟨sameLower, same⟩ := BoundToken.append_inj (stopsAtBlank _) (stopsAtBlank _) same
  obtain ⟨sameUpper, same⟩ := BoundToken.append_inj (stopsAtBracket _) (stopsAtBracket _)
    (List.append_cancel_left same)
  injection same with _ sameRest
  exact ⟨sameLower, sameUpper, sameRest⟩

theorem Atom.append_inj {left right : Atom} {leftRest rightRest : List Char}
    (leftEnds : Ends leftRest) (rightEnds : Ends rightRest)
    (same : left.chars ++ leftRest = right.chars ++ rightRest) :
    left = right ∧ leftRest = rightRest := by
  cases left with
  | bare token =>
      cases right with
      | bare other =>
          obtain ⟨sameChars, sameRest⟩ := token.escaped.append_inj
            (not_isPlain_of_mem (by decide)) other.escaped leftEnds.stops rightEnds.stops same
          exact ⟨congrArg Atom.bare (Token.ext sameChars), sameRest⟩
      | quoted text => exact absurd same (Token.head_ne (by decide) (by decide))
      | between lower upper => exact absurd same (Token.head_ne (by decide) (by decide))
  | quoted text =>
      cases right with
      | bare token => exact absurd same.symm (Token.head_ne (by decide) (by decide))
      | quoted other =>
          obtain ⟨sameText, sameRest⟩ := QuotedText.append_inj same
          exact ⟨congrArg Atom.quoted sameText, sameRest⟩
      | between lower upper =>
          injection same with sameHead
          exact absurd sameHead (by decide)
  | between lower upper =>
      cases right with
      | bare token => exact absurd same.symm (Token.head_ne (by decide) (by decide))
      | quoted text =>
          injection same with sameHead
          exact absurd sameHead (by decide)
      | between otherLower otherUpper =>
          obtain ⟨sameLower, sameUpper, sameRest⟩ := Atom.between_append_inj same
          exact ⟨by rw [sameLower, sameUpper], sameRest⟩

/-! ## Expressions -/

namespace Expression

theorem ends_charsAfter (connective : Connective) (parts : List Expression) (rest : List Char) :
    Ends (charsAfter connective parts ++ ')' :: rest) := by
  intro c member
  cases parts with
  | nil =>
      rw [charsAfter, List.nil_append, List.head?_cons, Option.mem_some] at member
      exact .inr member.symm
  | cons part parts =>
      left
      cases connective <;> simpa [charsAfter, Connective.chars, eq_comm] using member

/-- The first character of a text tells negations, groups and statements apart. -/
theorem statement_head_ne {field : Name} {c : Char} {text rest : List Char}
    (special : c ∈ specialCharacters) (notColon : c ≠ ':') :
    field.chars ++ ':' :: text ≠ c :: rest := by
  obtain ⟨chars, each⟩ := field
  cases chars with
  | nil =>
      intro same
      injection same with sameHead
      exact notColon sameHead.symm
  | cons first chars =>
      intro same
      injection same with sameHead
      exact (each first List.mem_cons_self).1 (sameHead ▸ special)

theorem Connective.eq_of_append {left right : Connective} {leftRest rightRest : List Char}
    (same : left.chars ++ leftRest = right.chars ++ rightRest) : left = right := by
  cases left with
  | or =>
      cases right with
      | or => rfl
      | and => simp [Connective.chars] at same
  | and =>
      cases right with
      | or => simp [Connective.chars] at same
      | and => rfl

/-- Two expressions of the same form. -/
inductive SameForm : Expression → Expression → Prop where
  | not (inner other : Expression) : SameForm (.not inner) (.not other)
  | group (connective otherConnective : Connective) (first second : Expression)
      (rest : List Expression) (otherFirst otherSecond : Expression)
      (otherRest : List Expression) :
      SameForm (.group connective first second rest)
        (.group otherConnective otherFirst otherSecond otherRest)
  | statement (field otherField : Name) (atom otherAtom : Atom) :
      SameForm (.statement field atom) (.statement otherField otherAtom)

theorem chars_group_append (connective : Connective) (first second : Expression)
    (parts : List Expression) (rest : List Char) :
    (group connective first second parts).chars ++ rest =
      '(' :: (first.chars ++ (charsAfter connective (second :: parts) ++ ')' :: rest)) := by
  simp [chars, charsAfter]

theorem chars_statement_append (field : Name) (atom : Atom) (rest : List Char) :
    (statement field atom).chars ++ rest = field.chars ++ ':' :: (atom.chars ++ rest) := by
  simp [chars]

theorem sameForm_of_append {left right : Expression} {leftRest rightRest : List Char}
    (same : left.chars ++ leftRest = right.chars ++ rightRest) : SameForm left right := by
  cases left with
  | not inner =>
      cases right with
      | not other => exact .not inner other
      | group connective first second rest =>
          rw [chars_group_append] at same
          injection same with sameHead
          exact absurd sameHead (by decide)
      | statement field atom =>
          rw [chars_statement_append] at same
          exact absurd same.symm (statement_head_ne (by decide) (by decide))
  | group connective first second rest =>
      rw [chars_group_append] at same
      cases right with
      | not other =>
          injection same with sameHead
          exact absurd sameHead (by decide)
      | group otherConnective otherFirst otherSecond otherRest => exact .group ..
      | statement field atom =>
          rw [chars_statement_append] at same
          exact absurd same.symm (statement_head_ne (by decide) (by decide))
  | statement field atom =>
      rw [chars_statement_append] at same
      cases right with
      | not other => exact absurd same (statement_head_ne (by decide) (by decide))
      | group connective first second rest =>
          rw [chars_group_append] at same
          exact absurd same (statement_head_ne (by decide) (by decide))
      | statement otherField otherAtom => exact .statement ..

-- The induction is on the left expression. Each expression inside it has a part of the text behind
-- it, so what follows is arbitrary.
mutual

/-- An expression ends where it does, whatever follows that cannot extend it. -/
theorem chars_append_inj :
    ∀ (left right : Expression) {leftRest rightRest : List Char}, Ends leftRest → Ends rightRest →
      left.chars ++ leftRest = right.chars ++ rightRest → left = right ∧ leftRest = rightRest
  | .not inner, right, leftRest, rightRest, leftEnds, rightEnds, same => by
      cases sameForm_of_append same with
      | not _ other =>
          injection same with _ same
          obtain ⟨sameInner, sameRest⟩ := chars_append_inj inner other leftEnds rightEnds same
          exact ⟨by rw [sameInner], sameRest⟩
  | .group connective first second rest, right, leftRest, rightRest, leftEnds, rightEnds, same => by
      cases sameForm_of_append same with
      | group _ otherConnective _ _ _ otherFirst otherSecond otherRest =>
          rw [chars_group_append, chars_group_append] at same
          injection same with _ same
          obtain ⟨sameFirst, same⟩ := chars_append_inj first otherFirst
            (ends_charsAfter _ _ _) (ends_charsAfter _ _ _) same
          simp only [charsAfter, List.append_assoc] at same
          have sameConnective := Connective.eq_of_append same
          subst sameConnective
          obtain ⟨sameSecond, same⟩ := chars_append_inj second otherSecond
            (ends_charsAfter _ rest _) (ends_charsAfter _ otherRest _)
            (List.append_cancel_left same)
          obtain ⟨sameParts, sameRest⟩ := charsAfter_append_inj connective rest otherRest same
          exact ⟨by rw [sameFirst, sameSecond, sameParts], sameRest⟩
  | .statement field atom, right, leftRest, rightRest, leftEnds, rightEnds, same => by
      cases sameForm_of_append same with
      | statement _ otherField _ otherAtom =>
          have stops (text : List Char) : Stops IsPlain (':' :: text) :=
            stops_cons (not_isPlain_of_mem (by decide))
          rw [chars_statement_append, chars_statement_append] at same
          obtain ⟨sameField, same⟩ :=
            append_inj_of_each field.each otherField.each (stops _) (stops _) same
          injection same with _ same
          obtain ⟨sameAtom, sameRest⟩ := Atom.append_inj leftEnds rightEnds same
          exact ⟨by rw [Name.ext sameField, sameAtom], sameRest⟩

theorem charsAfter_append_inj (connective : Connective) :
    ∀ (left right : List Expression) {leftRest rightRest : List Char},
      charsAfter connective left ++ ')' :: leftRest =
        charsAfter connective right ++ ')' :: rightRest →
      left = right ∧ leftRest = rightRest
  | [], [], _, _, same => by
      injection same with _ sameRest
      exact ⟨rfl, sameRest⟩
  | [], part :: right, _, _, same => by
      cases connective <;> simp [charsAfter, Connective.chars] at same
  | part :: left, [], _, _, same => by
      cases connective <;> simp [charsAfter, Connective.chars] at same
  | part :: left, other :: right, leftRest, rightRest, same => by
      rw [charsAfter, charsAfter] at same
      simp only [List.append_assoc] at same
      obtain ⟨samePart, same⟩ := chars_append_inj part other (ends_charsAfter connective left _)
        (ends_charsAfter connective right _) (List.append_cancel_left same)
      obtain ⟨sameParts, sameRest⟩ := charsAfter_append_inj connective left right same
      exact ⟨by rw [samePart, sameParts], sameRest⟩

end

/-- A text has at most one derivation. -/
theorem eq_of_chars_eq {left right : Expression} (same : left.chars = right.chars) :
    left = right := by
  have ends : Ends [] := fun c member => by simp at member
  exact (chars_append_inj left right ends ends (by rw [same])).1

end Expression

end FacetedSearch.Solr
