import FacetedSearch.Json.Number

/-!
Contract: the tokens of JSON texts.

Owns:
- `Token` and `tokens?`, which cuts a text into tokens character by character;
- the meaning of escapes inside strings.

A string may escape code units instead of characters. A pair of units that names one character
is joined; a string with any other unit of a pair has no text but is still a token, since ignored
strings are not checked for this.

Does not own: the order of tokens.
-/

namespace FacetedSearch.Json

/-- A token of a JSON text. -/
inductive Token where
  | openObject
  | closeObject
  | openArray
  | closeArray
  | colon
  | comma
  | null
  | boolean (value : Bool)
  | number (literal : Literal)
  /-- A string; nothing if its escapes do not name characters. -/
  | string (text : Option String)
deriving DecidableEq, Repr

/-- One item of a string: a character as such or an escaped code unit. -/
inductive StringItem where
  | character (c : Char)
  | unit (code : Nat)
deriving DecidableEq, Repr

/-- Whether a code unit is the first one of a pair. -/
def isLeadingUnit (code : Nat) : Bool :=
  0xD800 ≤ code && code < 0xDC00

/-- Whether a code unit is the second one of a pair. -/
def isTrailingUnit (code : Nat) : Bool :=
  0xDC00 ≤ code && code < 0xE000

/-- The characters of the items, if the units name characters. -/
def joinItems? : List StringItem → Option (List Char)
  | [] => some []
  | .character c :: rest => (joinItems? rest).map (c :: ·)
  | [.unit code] =>
      if isLeadingUnit code || isTrailingUnit code then none else some [Char.ofNat code]
  | .unit code :: .character c :: rest =>
      if isLeadingUnit code || isTrailingUnit code then none
      else (joinItems? (.character c :: rest)).map (Char.ofNat code :: ·)
  | .unit code :: .unit next :: rest =>
      if isLeadingUnit code then
        if isTrailingUnit next then
          (joinItems? rest).map
            (Char.ofNat (0x10000 + (code - 0xD800) * 0x400 + (next - 0xDC00)) :: ·)
        else none
      else if isTrailingUnit code then none
      else (joinItems? (.unit next :: rest)).map (Char.ofNat code :: ·)

/-- What is being read. Unfinished lists run backwards. -/
inductive Reading where
  /-- Nothing: blanks and punctuation are allowed. -/
  | nothing
  | word (letters : List Char)
  | numeral (characters : List Char)
  | text (items : List StringItem)
  /-- The character after a backslash. -/
  | escape (items : List StringItem)
  /-- The digits of a code unit. -/
  | digits (items : List StringItem) (code count : Nat)
deriving DecidableEq, Repr

/-- The tokens that were read, last one first, and what is being read. -/
structure TokenState where
  read : List Token
  reading : Reading

def wordToken? (letters : List Char) : Option Token :=
  if letters = ['n', 'u', 'l', 'l'] then some .null
  else if letters = ['t', 'r', 'u', 'e'] then some (.boolean true)
  else if letters = ['f', 'a', 'l', 's', 'e'] then some (.boolean false)
  else none

def startToken? (read : List Token) (c : Char) : Option TokenState :=
  if c = ' ' ∨ c = '\n' ∨ c = '\t' ∨ c = '\r' then some ⟨read, .nothing⟩
  else if c = '\x7b' then some ⟨.openObject :: read, .nothing⟩
  else if c = '\x7d' then some ⟨.closeObject :: read, .nothing⟩
  else if c = '[' then some ⟨.openArray :: read, .nothing⟩
  else if c = ']' then some ⟨.closeArray :: read, .nothing⟩
  else if c = ':' then some ⟨.colon :: read, .nothing⟩
  else if c = ',' then some ⟨.comma :: read, .nothing⟩
  else if c = '\x22' then some ⟨read, .text []⟩
  else if c = '-' ∨ c.isDigit then some ⟨read, .numeral [c]⟩
  else if c.isLower then some ⟨read, .word [c]⟩
  else none

/-- Ends a word or a numeral; nothing else may be unfinished. -/
def TokenState.finish? (state : TokenState) : Option (List Token) :=
  match state.reading with
  | .nothing => some state.read
  | .word letters => (wordToken? letters.reverse).map (· :: state.read)
  | .numeral characters =>
      (Literal.read? characters.reverse).map fun literal => .number literal :: state.read
  | _ => none

/-- The character that an escape with one letter names. -/
def escapedCharacter? (letter : Char) : Option Char :=
  if letter = '\x22' ∨ letter = '\\' ∨ letter = '/' then some letter
  else if letter = 'b' then some '\x08'
  else if letter = 'f' then some '\x0c'
  else if letter = 'n' then some '\n'
  else if letter = 'r' then some '\r'
  else if letter = 't' then some '\t'
  else none

/-- The value of a hexadecimal digit in either case. -/
def hexDigitValue? (digit : Char) : Option Nat :=
  if digit.isDigit then some (digit.toNat - '0'.toNat)
  else if 'a' ≤ digit ∧ digit ≤ 'f' then some (digit.toNat - 'a'.toNat + 10)
  else if 'A' ≤ digit ∧ digit ≤ 'F' then some (digit.toNat - 'A'.toNat + 10)
  else none

def continuesNumeral (c : Char) : Bool :=
  c.isDigit || c == '+' || c == '-' || c == '.' || c == 'e' || c == 'E'

/-- Reads one character. -/
def TokenState.next? (state : TokenState) (c : Char) : Option TokenState :=
  match state.reading with
  | .nothing => startToken? state.read c
  | .word letters =>
      if c.isLower then some ⟨state.read, .word (c :: letters)⟩
      else state.finish?.bind fun read => startToken? read c
  | .numeral characters =>
      if continuesNumeral c then some ⟨state.read, .numeral (c :: characters)⟩
      else state.finish?.bind fun read => startToken? read c
  | .text items =>
      if c = '\x22' then
        some ⟨.string ((joinItems? items.reverse).map String.ofList) :: state.read, .nothing⟩
      else if c = '\\' then some ⟨state.read, .escape items⟩
      else if c.toNat < 32 then none
      else some ⟨state.read, .text (.character c :: items)⟩
  | .escape items =>
      if c = 'u' then some ⟨state.read, .digits items 0 0⟩
      else
        (escapedCharacter? c).map fun named => ⟨state.read, .text (.character named :: items)⟩
  | .digits items code count =>
      (hexDigitValue? c).map fun digit =>
        let longer := code * 16 + digit
        if count = 3 then ⟨state.read, .text (.unit longer :: items)⟩
        else ⟨state.read, .digits items longer (count + 1)⟩

def tokens? (text : List Char) : Option (List Token) :=
  ((text.foldlM TokenState.next? ⟨[], .nothing⟩).bind TokenState.finish?).map List.reverse

end FacetedSearch.Json
