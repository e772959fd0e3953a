import FacetedSearch.Settings.Basic
import FacetedSearch.Settings.Tree

/-!
Contract: settings assembled from assignments of loosely typed values.

Owns: `ofAssignments?`, in which a setting without a value has its default and a value of the wrong
type is refused. The settings of a table stand in it by name; in their order they may also stand
in a list.

Does not own: the texts that assignments come from.
-/

namespace FacetedSearch.Settings

/-- Reads the value of a setting, or its default if there is none. -/
def readTree? {α : Type} (read : Scalar → Option α) (default : α) : Option Tree → Option α
  | none => some default
  | some (.scalar value) => read value
  | some _ => none

/-- Reads highlight settings, given what is put for each of them by name and in order. -/
def highlightOf? (valueOf : String → Nat → Option Tree) : Option HighlightSettings :=
  let default : HighlightSettings := {}
  let word (name : String) (place : Nat) (default : UInt64) : Option UInt64 :=
    readTree? Scalar.asWord? default (valueOf name place)
  let text (name : String) (place : Nat) (default : String) : Option String :=
    readTree? (some ·.asText) default (valueOf name place)
  do
    return {
      openingTag := ← text "pre_tag" 0 default.openingTag
      closingTag := ← text "post_tag" 1 default.closingTag
      fragmentCount := ← word "number_of_fragments" 2 default.fragmentCount
      snippets := ← word "snippets" 3 default.snippets
      fragmentSize := ← word "fragment_size" 4 default.fragmentSize }

/-- Reads highlight settings. Elements of a list after the last setting do not count. -/
def highlightOfTree? : Option Tree → Option HighlightSettings
  | none => some {}
  | some (.table members) => highlightOf? fun name _ => Keyed.find?In name members
  | some (.list elements) => highlightOf? fun _ place => elements[place]?
  | some _ => none

def ofAssignments? (assignments : List Assignment) : Option Settings :=
  let members := (Tree.ofAssignments assignments).members
  let default : Settings := {}
  let read {α : Type} (convert : Scalar → Option α) (name : String) (default : α) : Option α :=
    readTree? convert default (Keyed.find?In name members)
  let word := read Scalar.asWord?
  let text := read (some ·.asText)
  do
    return {
      defaultPageSize := ← word "default_page_size" default.defaultPageSize
      maxPageSize := ← word "max_page_size" default.maxPageSize
      defaultFacetLimit := ← word "default_facet_limit" default.defaultFacetLimit
      maxFacetSize := ← word "max_facet_size" default.maxFacetSize
      defaultFacetMinCount :=
        ← read Scalar.asHalfWord? "default_facet_min_count" default.defaultFacetMinCount
      matchAllSentinel := ← text "match_all_sentinel" default.matchAllSentinel
      rangeSeparator := ← text "range_separator" default.rangeSeparator
      rangeWildcard := ← text "range_wildcard" default.rangeWildcard
      negationMark := ← text "negation_prefix" default.negationMark
      filteredAggregationMark :=
        ← text "filtered_aggregation_prefix" default.filteredAggregationMark
      autocompleteSuffix := ← text "autocomplete_suffix" default.autocompleteSuffix
      defaultSuggestLimit := ← word "default_suggest_limit" default.defaultSuggestLimit
      trackTotalHits := ← read Scalar.asBoolean? "track_total_hits" default.trackTotalHits
      executionTimeoutMilliseconds :=
        ← word "execution_timeout_ms" default.executionTimeoutMilliseconds
      highlight := ← highlightOfTree? (Keyed.find?In "highlight" members) }

end FacetedSearch.Settings
