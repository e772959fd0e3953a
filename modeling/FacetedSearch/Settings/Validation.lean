import FacetedSearch.SearchError
import FacetedSearch.Settings.Basic
import FacetedSearch.Sorting

/-!
Contract: the settings that a service accepts.

Owns:
- `bounds`, one requirement for each bounded setting;
- `failures`, the names of what fails: single settings first, and the page sizes against each
  other only if no single setting fails;
- `validated`, which also keeps the range separator and the negation mark apart;
- `holds_of_validated`: no single setting of accepted settings fails.

Does not own: the reading of settings.
-/

namespace FacetedSearch.Settings

/-- What a bounded setting needs. -/
inductive Requirement where
  /-- A number that is not zero. -/
  | range
  /-- A text that is not empty. -/
  | length
deriving DecidableEq, Repr

def Requirement.name : Requirement → String
  | .range => "range"
  | .length => "length"

/-- A bounded setting: where it stands, what it needs, and whether it has it. -/
structure Bound where
  path : String
  requirement : Requirement
  holds : Settings → Bool

/-- The bound of a number that must not be zero. -/
def Bound.positive (path : String) (number : Settings → UInt64) : Bound :=
  ⟨path, .range, fun settings => 1 ≤ number settings⟩

/-- The bound of a text that must not be empty. -/
def Bound.filled (path : String) (text : Settings → String) : Bound :=
  ⟨path, .length, fun settings => text settings != ""⟩

/-- The bounds of single settings. -/
def bounds : List Bound :=
  [.positive "default_page_size" defaultPageSize,
   .positive "max_page_size" maxPageSize,
   .positive "default_facet_limit" defaultFacetLimit,
   .positive "max_facet_size" maxFacetSize,
   .filled "match_all_sentinel" matchAllSentinel,
   .filled "range_separator" rangeSeparator,
   .filled "range_wildcard" rangeWildcard,
   .filled "negation_prefix" negationMark,
   .filled "filtered_aggregation_prefix" filteredAggregationMark,
   .positive "default_suggest_limit" defaultSuggestLimit,
   .positive "execution_timeout_ms" executionTimeoutMilliseconds,
   .filled "highlight.pre_tag" (·.highlight.openingTag),
   .filled "highlight.post_tag" (·.highlight.closingTag)]

/-- The single settings that fail, with what they need. -/
def boundFailures (settings : Settings) : List String :=
  (bounds.filter fun bound => !bound.holds settings).map fun bound =>
    bound.path ++ ":" ++ bound.requirement.name

/-- Everything that fails, in alphabetical order. -/
def failures (settings : Settings) : List String :=
  let single := sortBy id settings.boundFailures
  if single.isEmpty && settings.maxPageSize < settings.defaultPageSize then
    ["__all__:default_page_size must not exceed max_page_size"]
  else single

def validated (settings : Settings) : Except SearchError Settings :=
  if settings.failures ≠ [] then .error (.settings (.outOfBounds settings.failures))
  else if settings.rangeSeparator = settings.negationMark then
    .error (.settings .separatorIsNegation)
  else .ok settings

theorem boundFailures_eq_nil_of_failures_eq_nil {settings : Settings}
    (noFailures : settings.failures = []) : settings.boundFailures = [] := by
  unfold failures at noFailures
  dsimp only at noFailures
  split at noFailures
  · cases noFailures
  · exact (noFailures ▸ sortBy_perm id settings.boundFailures).nil_eq.symm

theorem holds_of_validated {settings : Settings} (accepted : settings.validated = .ok settings) :
    ∀ bound ∈ bounds, bound.holds settings = true := by
  have noFailures : settings.failures = [] := by
    by_cases noFailures : settings.failures = []
    · exact noFailures
    · rw [validated, if_pos noFailures] at accepted
      cases accepted
  have noneFails := List.map_eq_nil_iff.1 (boundFailures_eq_nil_of_failures_eq_nil noFailures)
  intro bound member
  simpa using List.filter_eq_nil_iff.1 noneFails bound member

end FacetedSearch.Settings
