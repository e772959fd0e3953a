import FacetedSearch.Text.Case
import FacetedSearch.Text.Splitting

/-!
Contract: universally unique identifiers.

Owns:
- `Uuid`, 32 hexadecimal digits in lower case;
- `Uuid.read?`: 32 digits, or 36 characters with hyphens after the 8th, 12th, 16th and 20th
  digit, and the hyphenated form in braces or after `urn:uuid:`;
- `Uuid.text`, the hyphenated form.

Does not own: versions and variants.
-/

namespace FacetedSearch

open Text

/-- Whether the character is a hexadecimal digit in lower case. -/
def isLowerHexDigit (c : Char) : Bool :=
  c.isDigit || ('a' ≤ c && c ≤ 'f')

/-- An identifier of 128 bits, as its hexadecimal digits. -/
structure Uuid where
  digits : List Char
  wellFormed : digits.length = 32 ∧ digits.all isLowerHexDigit = true
deriving DecidableEq

namespace Uuid

/-- The identifier with the given digits in any case. -/
def ofDigits? (digits : List Char) : Option Uuid :=
  let lower := digits.map Char.toLower
  if wellFormed : lower.length = 32 ∧ lower.all isLowerHexDigit = true then
    some ⟨lower, wellFormed⟩
  else none

/-- The hyphenated form: groups of 8, 4, 4, 4 and 12 digits. -/
def chars (uuid : Uuid) : List Char :=
  uuid.digits.take 8 ++ '-' :: (uuid.digits.drop 8).take 4 ++ '-' ::
    (uuid.digits.drop 12).take 4 ++ '-' :: (uuid.digits.drop 16).take 4 ++ '-' ::
      uuid.digits.drop 20

def text (uuid : Uuid) : String :=
  String.ofList uuid.chars

def readHyphenated? (text : List Char) : Option Uuid :=
  if text.length = 36 ∧ text[8]? = some '-' ∧ text[13]? = some '-' ∧ text[18]? = some '-' ∧
      text[23]? = some '-' then
    ofDigits?
      (text.take 8 ++ (text.drop 9).take 4 ++ (text.drop 14).take 4 ++ (text.drop 19).take 4 ++
        text.drop 24)
  else none

/-- The word in front of an identifier that is written as a resource name. -/
def resourcePrefix : List Char :=
  ['u', 'r', 'n', ':', 'u', 'u', 'i', 'd', ':']

def read? (text : List Char) : Option Uuid :=
  if text.length = 32 then ofDigits? text
  else if text.length = 36 then readHyphenated? text
  else if text.length = 38 ∧ text.head? = some '\x7b' ∧ text.getLast? = some '\x7d' then
    readHyphenated? ((text.drop 1).take 36)
  else if text.length = 45 ∧ equalIgnoringAsciiCase (text.take 9) resourcePrefix then
    readHyphenated? (text.drop 9)
  else none

end Uuid

end FacetedSearch
