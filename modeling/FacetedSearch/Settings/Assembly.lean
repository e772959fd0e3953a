import FacetedSearch.Settings.Document
import FacetedSearch.Settings.Environment
import FacetedSearch.Settings.Layer
import FacetedSearch.Settings.Toml.Document
import FacetedSearch.Settings.Validation

/-!
Contract: settings from texts, accepted or refused.

Owns:
- settings from a JSON text, from a file in TOML, and from an optional file under environment
  variables;
- `Change`, the single steps by which an application states its settings.

Does not own: access to files and to the environment.
-/

namespace FacetedSearch.Settings

def ofJson (text : String) : Except SearchError Settings :=
  match ofJson? text with
  | none => .error (.serialization "malformed settings")
  | some settings => settings.validated

/-- The assignments of a file that may be missing. -/
def assignmentsOfFile : Option String → Except SearchError (List Assignment)
  | none => .ok []
  | some text =>
      match Toml.readFile? text with
      | none => .error (.settings (.unreadable "malformed settings file"))
      | some assignments => .ok assignments

def ofAssignments (assignments : List Assignment) : Except SearchError Settings :=
  match ofAssignments? assignments with
  | none => .error (.settings (.unreadable "setting of the wrong type"))
  | some settings => settings.validated

/-- The settings of a file that has to exist. -/
def ofFile (file : Option String) : Except SearchError Settings :=
  match file with
  | none => .error (.settings (.unreadable "settings file not found"))
  | some _ => (assignmentsOfFile file).bind ofAssignments

/-- The settings of a file that may be missing, changed by environment variables. -/
def ofFileAndVariables (file : Option String) (environment : List (String × String)) :
    Except SearchError Settings :=
  (assignmentsOfFile file).bind fun assignments =>
    ofAssignments (assignments ++ ofVariables environment)

/-- One step by which an application states its settings. -/
inductive Change where
  | defaultPageSize (size : UInt64)
  | maxPageSize (size : UInt64)
  | defaultFacetLimit (limit : UInt64)
  | maxFacetSize (size : UInt64)
  | defaultFacetMinCount (count : UInt32)
  | matchAllSentinel (sentinel : String)
  | rangeSeparator (separator : String)
  | rangeWildcard (wildcard : String)
  | negationMark (mark : String)
  | autocompleteSuffix (suffix : String)
  | trackTotalHits (enabled : Bool)
  | executionTimeoutMilliseconds (milliseconds : UInt64)
  | highlightTags (opening closing : String)
deriving DecidableEq, Repr

def change (settings : Settings) : Change → Settings
  | .defaultPageSize size => { settings with defaultPageSize := size }
  | .maxPageSize size => { settings with maxPageSize := size }
  | .defaultFacetLimit limit => { settings with defaultFacetLimit := limit }
  | .maxFacetSize size => { settings with maxFacetSize := size }
  | .defaultFacetMinCount count => { settings with defaultFacetMinCount := count }
  | .matchAllSentinel sentinel => { settings with matchAllSentinel := sentinel }
  | .rangeSeparator separator => { settings with rangeSeparator := separator }
  | .rangeWildcard wildcard => { settings with rangeWildcard := wildcard }
  | .negationMark mark => { settings with negationMark := mark }
  | .autocompleteSuffix suffix => { settings with autocompleteSuffix := suffix }
  | .trackTotalHits enabled => { settings with trackTotalHits := enabled }
  | .executionTimeoutMilliseconds milliseconds =>
      { settings with executionTimeoutMilliseconds := milliseconds }
  | .highlightTags opening closing =>
      { settings with
        highlight :=
          { settings.highlight with openingTag := opening, closingTag := closing } }

end FacetedSearch.Settings
