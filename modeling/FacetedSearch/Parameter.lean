import FacetedSearch.Numeral
import FacetedSearch.Text.Blank
import FacetedSearch.Text.Case
import FacetedSearch.Text.Quoted

/-!
Contract: search parameters, their value types and their vocabularies.

Owns:
- `ValueType`, the declared type of the raw values of a parameter;
- `SearchParameter`, what the library knows of an application's parameters;
- the look-up of names in a vocabulary, blind to case, blanks and separators.

Does not own: the parsing of values.
-/

namespace FacetedSearch

/-- The canonical names of an enumerated value type, in order. -/
abbrev Vocabulary := List String

/-- How the raw filter values of a parameter are read. -/
inductive ValueType where
  | text
  | integer
  | long
  | double
  | float
  | boolean
  | date
  | uuid
  | enumeration (vocabulary : Vocabulary)
deriving DecidableEq, Repr

namespace ValueType

/-- Whether values of the type may be written as ranges. -/
def supportsRanges : ValueType → Bool
  | .text | .integer | .long | .double | .float | .date => true
  | .boolean | .uuid | .enumeration _ => false

def description : ValueType → String
  | .text => "Text"
  | .integer => "Integer"
  | .long => "Long"
  | .double => "Double"
  | .float => "Float"
  | .boolean => "Boolean"
  | .date => "Date"
  | .uuid => "Uuid"
  | .enumeration vocabulary =>
      "Enum([" ++ ", ".intercalate (vocabulary.map Text.quoted) ++ "])"

end ValueType

/-- The parameters of an application: each has a name and a declared value type. -/
class SearchParameter (P : Type) where
  name : P → String
  valueType : P → ValueType
  [decidableEq : DecidableEq P]

attribute [reducible, instance] SearchParameter.decidableEq

/-- A parameter given by its declaration. -/
structure DeclaredParameter where
  name : String
  valueType : ValueType
deriving DecidableEq, Repr

instance : SearchParameter DeclaredParameter where
  name := DeclaredParameter.name
  valueType := DeclaredParameter.valueType

namespace Vocabulary

/-- A name without blanks, underscores, hyphens and points, in upper case. -/
def normalForm (name : String) : List Char :=
  Text.toUpper
    (name.toList.filter fun c => c != '_' && c != '-' && c != '.' && !Text.isBlank c)

/-- The first name with the normal form of the given text; a text without a normal form has no
name. -/
def lookup? (vocabulary : Vocabulary) (value : String) : Option String :=
  let wanted := normalForm value
  if wanted.isEmpty then none else vocabulary.find? fun name => normalForm name == wanted

/-- The name that an indexed value stands for: numerals are positions, all else is looked up. -/
def canonical? (vocabulary : Vocabulary) (indexed : String) : Option String :=
  match Numeral.readNat? Numeral.maxWord (Text.trimBlanks indexed.toList) with
  | some position => vocabulary[position]?
  | none => vocabulary.lookup? indexed

end Vocabulary

end FacetedSearch
