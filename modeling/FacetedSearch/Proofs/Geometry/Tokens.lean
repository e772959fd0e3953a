import FacetedSearch.Geometry.Token
import FacetedSearch.Proofs.Floating.Reading
import FacetedSearch.Proofs.Geometry.Normal

/-!
Contract: the tokens of normal forms.

Owns:
- `Token.ofNumber`, the token of a written number: infinity and not-a-number are words, negative
  infinity and all finite numbers are numbers;
- `FilterShape.tokens`, and `FilterShape.tokens_chars`: these are the tokens of a shape's text;
- `FilterShape.word_mem_tokens_iff`: the words in them beside the keywords.

Texts are cut with anything behind them that cannot extend the last token: the end of the text or
punctuation.

Does not own: the reading of tokens.
-/

namespace FacetedSearch.Geometry

open Floating

/-! ## Cutting -/

/-- A character of an unfinished token. -/
def IsInner (c : Char) : Prop :=
  c ≠ '\x00' ∧ isTokenBlank c = false ∧ punctuation? c = none

theorem isInner_of_ne {c : Char}
    (differs : ∀ other ∈ ['\x00', ' ', '\t', '\n', '\r', '(', ')', ','], c ≠ other) :
    IsInner c := by
  simp only [List.forall_mem_cons] at differs
  simp [IsInner, isTokenBlank, punctuation?, differs]

theorem isInner_of_isValueCharacter {c : Char} (isValue : IsValueCharacter c) : IsInner c := by
  apply isInner_of_ne
  rintro other member rfl
  have noValues : ∀ other ∈ ['\x00', ' ', '\t', '\n', '\r', '(', ')', ','],
      ¬ IsValueCharacter other :=
    forall_mem_of_all (by decide)
  exact noValues c member isValue

theorem tokensAfter_append {read text : List Char} (inner : ∀ c ∈ text, IsInner c)
    (rest : List Char) :
    tokensAfter read (text ++ rest) = tokensAfter (text.reverse ++ read) rest := by
  induction text generalizing read with
  | nil => rfl
  | cons c text inductionHypothesis =>
      obtain ⟨notNull, notBlank, notPunctuation⟩ := inner c List.mem_cons_self
      rw [List.cons_append, tokensAfter, if_neg notNull, if_neg (by simp [notBlank]),
        notPunctuation]
      dsimp only
      rw [inductionHypothesis fun other member => inner other (List.mem_cons_of_mem c member),
        List.reverse_cons, List.append_assoc, List.singleton_append]

/-- A text that ends or goes on with punctuation. -/
def Breaks (rest : List Char) : Prop :=
  ∀ c ∈ rest.head?, c = '(' ∨ c = ')' ∨ c = ','

theorem breaks_nil : Breaks [] := by
  intro c member
  cases member

theorem breaks_cons {c : Char} (isPunctuation : c = '(' ∨ c = ')' ∨ c = ',') (rest : List Char) :
    Breaks (c :: rest) := by
  intro other member
  cases member
  exact isPunctuation

theorem tokensAfter_of_breaks {read rest : List Char} (breaks : Breaks rest) :
    tokensAfter read rest = precede read (tokens rest) := by
  cases rest with
  | nil => rfl
  | cons c rest =>
      rcases breaks c rfl with rfl | rfl | rfl
      · rfl
      · rfl
      · rfl

theorem precede_reverse {text : List Char} (notEmpty : text ≠ []) (tokens : List Token) :
    precede text.reverse tokens = .ofCharacters text :: tokens := by
  unfold precede
  rw [List.reverse_reverse, if_neg]
  simpa using notEmpty

/-- A text whose tokens do not depend on the punctuation that follows. -/
def Cuts (text : List Char) (written : List Token) : Prop :=
  ∀ rest, Breaks rest → tokens (text ++ rest) = written ++ tokens rest

namespace Cuts

variable {text other : List Char} {written others : List Token}

theorem tokens_eq (cuts : Cuts text written) : tokens text = written := by
  have whole := cuts [] breaks_nil
  rw [List.append_nil] at whole
  rw [whole]
  exact List.append_nil written

theorem append (cuts : Cuts text written) (otherCuts : Cuts other others)
    (breaks : ∀ rest, Breaks (other ++ rest)) : Cuts (text ++ other) (written ++ others) := by
  intro rest restBreaks
  rw [List.append_assoc, cuts _ (breaks rest), otherCuts rest restBreaks, List.append_assoc]

end Cuts

theorem cuts_word {text : List Char} (notEmpty : text ≠ []) (inner : ∀ c ∈ text, IsInner c) :
    Cuts text [.ofCharacters text] := by
  intro rest breaks
  rw [tokens, tokensAfter_append inner, List.append_nil, tokensAfter_of_breaks breaks,
    precede_reverse notEmpty]
  rfl

/-! ## Numbers -/

/-- The token of a written number. -/
def Token.ofNumber : Double → Token
  | .infinite false => .word "inf".toList
  | .notANumber => .word "NaN".toList
  | value => .number value

theorem numberToken_of_read {first : Char} {rest : List Char} {value : Double}
    (notPlus : first ≠ '+') (read : readFloating? (first :: rest) = some value) :
    numberToken (first :: rest) = .number value := by
  unfold numberToken
  split
  · rename_i same
    injection same with isPlus
    exact absurd isPlus notPlus
  · dsimp only
    rw [read]

theorem ofCharacters_of_read {first : Char} {rest : List Char} {value : Double}
    (isNumber : first = '-' ∨ first.isDigit = true)
    (read : readFloating? (first :: rest) = some value) :
    Token.ofCharacters (first :: rest) = .number value := by
  have begins : (first.isDigit || first == '.' || first == '-' || first == '+') = true := by
    rcases isNumber with rfl | isDigit
    · rfl
    · simp [isDigit]
  have notPlus : first ≠ '+' := by
    rintro rfl
    exact absurd isNumber (by decide)
  rw [← numberToken_of_read notPlus read]
  exact if_pos begins

theorem ofCharacters_renderChars (value : Double) :
    Token.ofCharacters (plainLayout.renderChars value) = .ofNumber value := by
  cases value with
  | finite negative code =>
      have read : readFloating? (plainLayout.renderChars (.finite negative code : Double)) =
          some (.finite negative code) := readFloating?_finite (by decide) negative code
      show _ = Token.number _
      cases negative with
      | true => exact ofCharacters_of_read (.inl rfl) read
      | false =>
          rw [renderChars_finite] at read ⊢
          obtain ⟨first, rest, isText, isDigit⟩ :=
            exists_head_plainDigits .double code.val
          rw [isText] at read ⊢
          exact ofCharacters_of_read (.inr isDigit) read
  | infinite negative =>
      cases negative with
      | true => exact ofCharacters_of_read (.inl rfl) readFloating?_negativeInfinity
      | false => rfl
  | notANumber => rfl

theorem isInner_of_mem_renderChars (value : Double) :
    ∀ c ∈ plainLayout.renderChars value, IsInner c := fun c member =>
  isInner_of_isValueCharacter (plain_isValueCharacter value c member)

/-! ## Shapes -/

/-- Tokens with commas between them. -/
def Token.separated : List (List Token) → List Token
  | [] => []
  | [part] => part
  | part :: rest => part ++ .comma :: separated rest

/-- Tokens in parentheses. -/
def Token.enclosed (inner : List Token) : List Token :=
  .openParenthesis :: inner ++ [.closeParenthesis]

theorem Token.enclosed_append (inner rest : List Token) :
    Token.enclosed inner ++ rest = .openParenthesis :: (inner ++ .closeParenthesis :: rest) := by
  simp [Token.enclosed]

def Coordinate.tokens (coordinate : Coordinate) : List Token :=
  [.ofNumber coordinate.x, .ofNumber coordinate.y]

def Ring.tokens (ring : Ring) : List Token :=
  Token.enclosed (Token.separated (ring.map Coordinate.tokens))

def Polygon.tokens (polygon : Polygon) : List Token :=
  Token.enclosed (Token.separated (polygon.map Ring.tokens))

namespace FilterShape

def tokens : FilterShape → List Token
  | .point coordinate => .word "POINT".toList :: Token.enclosed coordinate.tokens
  | .linearRing ring => .word "LINEARRING".toList :: ring.tokens
  | .polygon rings => .word "POLYGON".toList :: rings.tokens
  | .multiPolygon [] => [.word "MULTIPOLYGON".toList, .word "EMPTY".toList]
  | .multiPolygon polygons =>
      .word "MULTIPOLYGON".toList ::
        Token.enclosed (Token.separated (polygons.map Polygon.tokens))

/-- The coordinates of a shape from left to right. -/
def coordinates : FilterShape → List Coordinate
  | .point coordinate => [coordinate]
  | .linearRing ring => ring
  | .polygon rings => rings.flatten
  | .multiPolygon polygons => polygons.flatten.flatten

end FilterShape

namespace Cuts

variable {text : List Char} {written : List Token}

theorem coordinate (coordinate : Coordinate) : Cuts coordinate.chars coordinate.tokens := by
  intro rest breaks
  have afterBlank (others : List Char) : tokens
      (plainLayout.renderChars coordinate.x ++ ' ' :: others) =
        .ofNumber coordinate.x :: tokens others := by
    rw [tokens, tokensAfter_append (isInner_of_mem_renderChars coordinate.x), List.append_nil]
    show precede (plainLayout.renderChars coordinate.x).reverse (tokens others) = _
    rw [precede_reverse (plain_ne_nil coordinate.x), ofCharacters_renderChars]
  have second := cuts_word (plain_ne_nil coordinate.y) (isInner_of_mem_renderChars coordinate.y)
    rest breaks
  rw [Coordinate.chars, List.append_assoc, List.cons_append, afterBlank, second,
    ofCharacters_renderChars]
  rfl

theorem parenthesized (cuts : Cuts text written) :
    Cuts (parenthesized text) (Token.enclosed written) := by
  intro rest _
  have inner := cuts (')' :: rest) (breaks_cons (by decide) rest)
  rw [Geometry.parenthesized, List.append_assoc]
  show Token.openParenthesis :: tokens (text ++ ')' :: rest) = _
  rw [inner, Token.enclosed_append]
  rfl

theorem commaSeparated {Item : Type} {items : List Item} {chars : Item → List Char}
    {tokensOf : Item → List Token} (each : ∀ item ∈ items, Cuts (chars item) (tokensOf item)) :
    Cuts (commaSeparated (items.map chars)) (Token.separated (items.map tokensOf)) := by
  induction items with
  | nil =>
      intro rest _
      rfl
  | cons first others inductionHypothesis =>
      have firstCuts := each first List.mem_cons_self
      have othersCut := inductionHypothesis fun item member =>
        each item (List.mem_cons_of_mem first member)
      cases others with
      | nil => exact firstCuts
      | cons second further =>
          intro rest breaks
          have afterComma := firstCuts
            (',' :: (Geometry.commaSeparated ((second :: further).map chars) ++ rest))
            (breaks_cons (by decide) _)
          show tokens ((chars first ++
            ',' :: Geometry.commaSeparated ((second :: further).map chars)) ++ rest) = _
          rw [List.append_assoc, List.cons_append, afterComma]
          show tokensOf first ++ Token.comma ::
            tokens (Geometry.commaSeparated ((second :: further).map chars) ++ rest) = _
          rw [othersCut rest breaks]
          show _ = (tokensOf first ++ Token.comma ::
            Token.separated ((second :: further).map tokensOf)) ++ tokens rest
          rw [List.append_assoc, List.cons_append]

theorem ring (ring : Ring) : Cuts ring.chars ring.tokens :=
  (commaSeparated fun item _ => coordinate item).parenthesized

theorem polygon (polygon : Polygon) : Cuts polygon.chars polygon.tokens :=
  (commaSeparated fun item _ => ring item).parenthesized

/-- A keyword before a text in parentheses. -/
theorem keyword (word : String) (notEmpty : word.toList ≠ [])
    (all : (word.toList.all fun c => decide (IsValueCharacter c)) = true)
    (isWord : Token.ofCharacters word.toList = .word word.toList)
    (cuts : Cuts (Geometry.parenthesized text) written) :
    Cuts (word.toList ++ Geometry.parenthesized text) (.word word.toList :: written) := by
  have wordCuts := cuts_word notEmpty fun c member =>
    isInner_of_isValueCharacter (forall_mem_of_all all c member)
  rw [isWord] at wordCuts
  exact wordCuts.append cuts fun rest => breaks_cons (by decide) _

end Cuts

/-- The tokens of the text of a shape. -/
theorem FilterShape.tokens_chars (shape : FilterShape) :
    Geometry.tokens shape.chars = shape.tokens := by
  cases shape with
  | point coordinate =>
      exact (Cuts.keyword "POINT" (by decide) (by decide) rfl
        (Cuts.coordinate coordinate).parenthesized).tokens_eq
  | linearRing ring =>
      exact (Cuts.keyword "LINEARRING" (by decide) (by decide) rfl (Cuts.ring ring)).tokens_eq
  | polygon rings =>
      exact (Cuts.keyword "POLYGON" (by decide) (by decide) rfl (Cuts.polygon rings)).tokens_eq
  | multiPolygon polygons =>
      cases polygons with
      | nil => rfl
      | cons first others =>
          have parts : Cuts
              (commaSeparated ((first :: others).map Polygon.chars))
              (Token.separated ((first :: others).map Polygon.tokens)) :=
            Cuts.commaSeparated fun item _ => Cuts.polygon item
          exact (Cuts.keyword "MULTIPOLYGON" (by decide) (by decide) rfl
            parts.parenthesized).tokens_eq

/-! ## Words -/

/-- A number whose token is a number. -/
def IsReadable (value : Double) : Prop :=
  value ≠ .infinite false ∧ value ≠ .notANumber

/-- A coordinate of numbers whose tokens are numbers. -/
def Coordinate.IsReadable (coordinate : Coordinate) : Prop :=
  Geometry.IsReadable coordinate.x ∧ Geometry.IsReadable coordinate.y

theorem ofNumber_of_isReadable {value : Double} (readable : IsReadable value) :
    Token.ofNumber value = .number value := by
  cases value with
  | finite negative code => rfl
  | infinite negative =>
      cases negative with
      | true => rfl
      | false => exact absurd rfl readable.1
  | notANumber => exact absurd rfl readable.2

theorem isReadable_iff (value : Double) : IsReadable value ↔
    Token.ofNumber value ≠ .word "inf".toList ∧ Token.ofNumber value ≠ .word "NaN".toList := by
  constructor
  · intro readable
    rw [ofNumber_of_isReadable readable]
    exact ⟨Token.noConfusion, Token.noConfusion⟩
  · intro noWord
    constructor
    · rintro rfl
      exact noWord.1 rfl
    · rintro rfl
      exact noWord.2 rfl

section Words

variable {word : List Char}

theorem word_mem_separated_iff (parts : List (List Token)) :
    .word word ∈ Token.separated parts ↔ ∃ part ∈ parts, .word word ∈ part := by
  induction parts with
  | nil => simp [Token.separated]
  | cons first others inductionHypothesis =>
      cases others with
      | nil => simp [Token.separated]
      | cons second further =>
          show .word word ∈ first ++ .comma :: Token.separated (second :: further) ↔ _
          rw [List.mem_append, List.mem_cons, inductionHypothesis]
          simp

theorem word_mem_items_iff {Item : Type} (items : List Item) (tokensOf : Item → List Token) :
    .word word ∈ Token.enclosed (Token.separated (items.map tokensOf)) ↔
      ∃ item ∈ items, .word word ∈ tokensOf item := by
  have inner : .word word ∈ Token.enclosed (Token.separated (items.map tokensOf)) ↔
      .word word ∈ Token.separated (items.map tokensOf) := by
    simp [Token.enclosed]
  rw [inner, word_mem_separated_iff]
  simp

theorem Ring.word_mem_tokens_iff (ring : Ring) :
    .word word ∈ ring.tokens ↔ ∃ coordinate ∈ ring, .word word ∈ coordinate.tokens :=
  word_mem_items_iff ring Coordinate.tokens

theorem Polygon.word_mem_tokens_iff (polygon : Polygon) :
    .word word ∈ polygon.tokens ↔
      ∃ coordinate ∈ polygon.flatten, .word word ∈ coordinate.tokens := by
  refine (word_mem_items_iff polygon Ring.tokens).trans ?_
  simp only [Ring.word_mem_tokens_iff, List.mem_flatten]
  grind

theorem word_mem_cons_iff {keyword : List Char} (differs : word ≠ keyword) (rest : List Token) :
    .word word ∈ .word keyword :: rest ↔ .word word ∈ rest := by
  simp [differs]

/-- Words that are no keywords of normal forms are those of numbers. -/
theorem FilterShape.word_mem_tokens_iff
    (noKeyword : ∀ keyword ∈ ["POINT", "LINEARRING", "POLYGON", "MULTIPOLYGON", "EMPTY"],
      word ≠ keyword.toList) (shape : FilterShape) :
    .word word ∈ shape.tokens ↔
      ∃ coordinate ∈ shape.coordinates, .word word ∈ coordinate.tokens := by
  cases shape with
  | point coordinate =>
      rw [tokens, word_mem_cons_iff (noKeyword "POINT" (by simp))]
      exact word_mem_items_iff [coordinate] Coordinate.tokens
  | linearRing ring =>
      rw [tokens, word_mem_cons_iff (noKeyword "LINEARRING" (by simp))]
      exact ring.word_mem_tokens_iff
  | polygon rings =>
      rw [tokens, word_mem_cons_iff (noKeyword "POLYGON" (by simp))]
      exact rings.word_mem_tokens_iff
  | multiPolygon polygons =>
      cases polygons with
      | nil =>
          rw [tokens, word_mem_cons_iff (noKeyword "MULTIPOLYGON" (by simp)),
            word_mem_cons_iff (noKeyword "EMPTY" (by simp))]
          simp [coordinates]
      | cons first others =>
          show .word word ∈ .word "MULTIPOLYGON".toList :: Token.enclosed
            (Token.separated ((first :: others).map Polygon.tokens)) ↔ _
          rw [word_mem_cons_iff (noKeyword "MULTIPOLYGON" (by simp)), word_mem_items_iff]
          simp only [Polygon.word_mem_tokens_iff, coordinates, List.mem_flatten]
          grind

end Words

/-- A shape whose tokens have neither word for a number has only coordinates that are read back. -/
theorem FilterShape.isReadable_iff (shape : FilterShape) :
    (∀ coordinate ∈ shape.coordinates, coordinate.IsReadable) ↔
      .word "inf".toList ∉ shape.tokens ∧ .word "NaN".toList ∉ shape.tokens := by
  rw [word_mem_tokens_iff (by decide), word_mem_tokens_iff (by decide)]
  simp only [Coordinate.IsReadable, Geometry.isReadable_iff, Coordinate.tokens, List.mem_cons,
    List.not_mem_nil, or_false]
  grind

end FacetedSearch.Geometry
