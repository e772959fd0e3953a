import FacetedSearch.Floating.Literal

/-!
Contract: the tokens of well-known texts.

Owns: `Token` and `tokens`, which cuts a text at parentheses, commas and blanks, and ends it at a
null character. What begins like a number has to be one; all else is a word. A text whose tokens
are in part malformed is still cut, since only the tokens of its first shape count.

Does not own: the order of tokens.
-/

namespace FacetedSearch.Geometry

open Floating

/-- A token of a well-known text. -/
inductive Token where
  | openParenthesis
  | closeParenthesis
  | comma
  | number (value : Double)
  | word (characters : List Char)
  /-- What begins like a number and is none. -/
  | malformed
deriving DecidableEq, Repr

def isTokenBlank (c : Char) : Bool :=
  c == ' ' || c == '\t' || c == '\n' || c == '\r'

def punctuation? (c : Char) : Option Token :=
  if c = '(' then some .openParenthesis
  else if c = ')' then some .closeParenthesis
  else if c = ',' then some .comma
  else none

/-- The token of a number, which one plus sign may precede. -/
def numberToken (characters : List Char) : Token :=
  let unsigned :=
    match characters with
    | '+' :: rest => rest
    | _ => characters
  match readFloating? unsigned with
  | some value => .number value
  | none => .malformed

/-- The token of some characters between blanks and punctuation. -/
def Token.ofCharacters (characters : List Char) : Token :=
  match characters with
  | [] => .malformed
  | c :: _ =>
      if c.isDigit || c == '.' || c == '-' || c == '+' then numberToken characters
      else .word characters

/-- Tokens with the one that was read before them; `read` runs backwards. -/
def precede (read : List Char) (tokens : List Token) : List Token :=
  if read.isEmpty then tokens else .ofCharacters read.reverse :: tokens

/-- The tokens of the rest of a text, `read` being the characters of an unfinished one. -/
def tokensAfter (read : List Char) : List Char → List Token
  | [] => precede read []
  | c :: rest =>
      if c = '\x00' then precede read []
      else if isTokenBlank c then precede read (tokensAfter [] rest)
      else
        match punctuation? c with
        | some token => precede read (token :: tokensAfter [] rest)
        | none => tokensAfter (c :: read) rest

def tokens (text : List Char) : List Token :=
  tokensAfter [] text

end FacetedSearch.Geometry
