import FacetedSearch.Settings.Toml.Word
import FacetedSearch.Text.Splitting

/-!
Contract: the strings of TOML.

Owns: `readQuoted?`, the text of a string between double quotes, which has escapes, or between
single quotes, which has none, on one line or, between three quotes, on several.
Does not own: where strings stand.
-/

namespace FacetedSearch.Settings.Toml

open Text

/-- Whether the character is a blank inside a line. -/
def isLineBlank (c : Char) : Bool :=
  c == ' ' || c == '\t'

/-- The text after the end of a line at its start. -/
def afterLineEnd? : List Char → Option (List Char)
  | '\n' :: rest => some rest
  | '\r' :: '\n' :: rest => some rest
  | _ => none

/-- The text without the blanks and the ends of lines at its start. -/
def skipBlankLines : List Char → List Char
  | ' ' :: rest => skipBlankLines rest
  | '\t' :: rest => skipBlankLines rest
  | '\n' :: rest => skipBlankLines rest
  | '\r' :: '\n' :: rest => skipBlankLines rest
  | text => text

/-- How a string is quoted. -/
structure QuotedForm where
  quote : Char
  /-- Whether a backslash escapes what follows it. -/
  hasEscapes : Bool
  /-- Whether three quotes stand on each side, with lines between them. -/
  hasLines : Bool

namespace QuotedForm

/-- What a text begins with if the string ends there: quotes that still belong to the string, and
the rest of the text. -/
def closing? (form : QuotedForm) (text : List Char) : Option (List Char × List Char) :=
  let quotes (count : Nat) := List.replicate count form.quote
  if form.hasLines then
    [2, 1, 0].findSome? fun count =>
      (stripStart? (quotes (count + 3)) text).map fun rest => (quotes count, rest)
  else (stripStart? (quotes 1) text).map fun rest => ([], rest)

def coded? (digits : List Char) : Option (List Char) :=
  (readDigits? 16 digits).bind fun code =>
    if code.isValidChar then some [Char.ofNat code] else none

/-- What the text after a backslash stands for, and how many characters of it do. A backslash at
the end of a line joins the line to the next text. -/
def escaped? (form : QuotedForm) : List Char → Option (List Char × Nat)
  | 'b' :: _ => some (['\x08'], 1)
  | 't' :: _ => some (['\t'], 1)
  | 'n' :: _ => some (['\n'], 1)
  | 'f' :: _ => some (['\x0c'], 1)
  | 'r' :: _ => some (['\r'], 1)
  | '\x22' :: _ => some (['\x22'], 1)
  | '\\' :: _ => some (['\\'], 1)
  | 'u' :: a :: b :: c :: d :: _ => (coded? [a, b, c, d]).map fun read => (read, 5)
  | 'U' :: a :: b :: c :: d :: e :: f :: g :: h :: _ =>
      (coded? [a, b, c, d, e, f, g, h]).map fun read => (read, 9)
  | text =>
      if form.hasLines && (afterLineEnd? (text.dropWhile isLineBlank)).isSome then
        some ([], text.length - (skipBlankLines text).length)
      else none

def isPlain (form : QuotedForm) (c : Char) : Bool :=
  c == '\t' || (32 ≤ c.toNat && c.toNat != 127) || (form.hasLines && c == '\n')

/-- Reads a string after its opening quotes, past `skipped` characters. -/
def readAfter? (form : QuotedForm) : (skipped : Nat) → List Char → Option (List Char × List Char)
  | _, [] => none
  | skipped + 1, _ :: rest => form.readAfter? skipped rest
  | 0, c :: rest =>
      match form.closing? (c :: rest) with
      | some closed => some closed
      | none =>
          let (read, count) : Option (List Char) × Nat :=
            if c = '\\' ∧ form.hasEscapes then
              match form.escaped? rest with
              | some (characters, count) => (some characters, count)
              | none => (none, 0)
            else if form.hasLines ∧ c = '\r' ∧ rest.head? = some '\n' then (some [], 0)
            else if form.isPlain c then (some [c], 0)
            else (none, 0)
          read.bind fun characters =>
            (form.readAfter? count rest).map fun parts => (characters ++ parts.1, parts.2)

end QuotedForm

/-- Reads a string. The end of a line right after three opening quotes does not belong to it. -/
def readQuoted? (text : List Char) : Option (String × List Char) :=
  let form? : Option (QuotedForm × List Char) :=
    match text with
    | '\x22' :: '\x22' :: '\x22' :: rest => some (⟨'\x22', true, true⟩, rest)
    | '\x27' :: '\x27' :: '\x27' :: rest => some (⟨'\x27', false, true⟩, rest)
    | '\x22' :: rest => some (⟨'\x22', true, false⟩, rest)
    | '\x27' :: rest => some (⟨'\x27', false, false⟩, rest)
    | _ => none
  form?.bind fun (form, rest) =>
    let inner := if form.hasLines then (afterLineEnd? rest).getD rest else rest
    (form.readAfter? 0 inner).map fun parts => (String.ofList parts.1, parts.2)

def readQuotedLine? (text : List Char) : Option (String × List Char) :=
  match text with
  | [] => none
  | quote :: rest =>
      let form : QuotedForm := ⟨quote, quote == '\x22', false⟩
      (form.readAfter? 0 rest).map fun parts => (String.ofList parts.1, parts.2)

end FacetedSearch.Settings.Toml
