import FacetedSearch.Json.Value

/-!
Contract: the compact texts of JSON values.

Owns: the escaping of strings and `Value.text`, which writes no blanks and keeps the order of
the members.
Does not own: reading.
-/

namespace FacetedSearch.Json

/-- One character inside a string: quotes, backslashes and controls are escaped. -/
def escapedForm (c : Char) : List Char :=
  if c = '\x22' then ['\\', '\x22']
  else if c = '\\' then ['\\', '\\']
  else if c = '\x08' then ['\\', 'b']
  else if c = '\x0c' then ['\\', 'f']
  else if c = '\n' then ['\\', 'n']
  else if c = '\r' then ['\\', 'r']
  else if c = '\t' then ['\\', 't']
  else if c.toNat < 32 then
    ['\\', 'u', '0', '0', Nat.digitChar (c.toNat / 16), Nat.digitChar (c.toNat % 16)]
  else [c]

def stringChars (text : String) : List Char :=
  '\x22' :: text.toList.flatMap escapedForm ++ ['\x22']

mutual

def Value.chars : Value → List Char
  | .null => ['n', 'u', 'l', 'l']
  | .boolean true => ['t', 'r', 'u', 'e']
  | .boolean false => ['f', 'a', 'l', 's', 'e']
  | .number value => value.chars
  | .string text => stringChars text
  | .array [] => ['[', ']']
  | .array (element :: rest) => '[' :: element.chars ++ Value.furtherElements rest ++ [']']
  | .object [] => ['\x7b', '\x7d']
  | .object ((key, value) :: rest) =>
      '\x7b' :: stringChars key ++ ':' :: value.chars ++ Value.furtherMembers rest ++ ['\x7d']

/-- The elements of an array after the first one. -/
def Value.furtherElements : List Value → List Char
  | [] => []
  | element :: rest => ',' :: element.chars ++ Value.furtherElements rest

/-- The members of an object after the first one. -/
def Value.furtherMembers : List (String × Value) → List Char
  | [] => []
  | (key, value) :: rest =>
      ',' :: stringChars key ++ ':' :: value.chars ++ Value.furtherMembers rest

end

def Value.text (value : Value) : String :=
  String.ofList value.chars

end FacetedSearch.Json
