import FacetedSearch.Floating.Literal
import FacetedSearch.Settings.Tree

/-!
Contract: assignments from environment variables.

Owns: which variables name settings, the path of a name, and the kind of a value: a truth value,
an integer, a floating-point number or a text, whichever is first.
Does not own: access to the environment.
-/

namespace FacetedSearch.Settings

open Text

/-- The beginning of the names of variables for settings, in lower case. -/
def variableMark : List Char :=
  "search_bridge__".toList

/-- The variable that names a file with settings. -/
def fileVariable : String :=
  "SEARCH_BRIDGE_CONFIG"

/-- A name with points for its double underscores. -/
def separateLevels : List Char → List Char
  | '_' :: '_' :: rest => '.' :: separateLevels rest
  | c :: rest => c :: separateLevels rest
  | [] => []

/-- The path that the name of a variable in any case leads to. -/
def variablePath? (name : String) : Option (List Step) :=
  (stripStart? variableMark (toLower name.toList)).bind fun rest => readPath? (separateLevels rest)

def readVariable (value : String) : Scalar :=
  let lower := String.ofList (toLower value.toList)
  if lower = "true" then .boolean true
  else if lower = "false" then .boolean false
  else
    match Numeral.readInt? Numeral.minInt64 Numeral.maxInt64 value.toList with
    | some integer => .integer (Int64.ofInt integer)
    | none =>
        match Floating.readFloating? value.toList with
        | some number => .floating number
        | none => .text value

/-- The assignments of some variables. A name that is no path leads nowhere. -/
def ofVariables (environment : List (String × String)) : List Assignment :=
  environment.filterMap fun named =>
    (variablePath? named.1).map fun path => ⟨path, .scalar (readVariable named.2)⟩

end FacetedSearch.Settings
