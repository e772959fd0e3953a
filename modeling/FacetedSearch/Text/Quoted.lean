import FacetedSearch.Text.Printable

/-!
Contract: texts shown between double quotes inside a message.

Owns: `quoted`, which escapes quotes, backslashes, the usual controls by a letter, and hidden
characters by their code point.
Does not own: the strings of JSON texts.
-/

namespace FacetedSearch.Text

def quotedForm (c : Char) : List Char :=
  if c = '\x22' then ['\\', '\x22']
  else if c = '\\' then ['\\', '\\']
  else if c = '\n' then ['\\', 'n']
  else if c = '\r' then ['\\', 'r']
  else if c = '\t' then ['\\', 't']
  else if c = '\x00' then ['\\', '0']
  else if isHidden c then ['\\', 'u', '\x7b'] ++ Nat.toDigits 16 c.toNat ++ ['\x7d']
  else [c]

def quoted (text : String) : String :=
  String.ofList ('\x22' :: text.toList.flatMap quotedForm ++ ['\x22'])

end FacetedSearch.Text
