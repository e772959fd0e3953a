import FacetedSearch.Duration

/-!
Contract: the settings that requests are compiled and answers are read with.

Owns: `Settings` with its defaults, the page size of a request and the time that an engine has.
Does not own: bounds on settings, and where settings come from.
-/

namespace FacetedSearch

/-- How matches of the free text are marked in answers. -/
structure HighlightSettings where
  /-- The mark before a match. -/
  openingTag : String := "<em class=\"searchHl\">"
  /-- The mark after a match. -/
  closingTag : String := "</em>"
  /-- Fragments of each field; zero stands for the whole field. -/
  fragmentCount : UInt64 := 0
  /-- Snippets of each field that are asked of an engine with request parameters. -/
  snippets : UInt64 := 10
  /-- Characters of a snippet; zero stands for the whole field. -/
  fragmentSize : UInt64 := 0
deriving DecidableEq, Repr

/-- The settings of a search service. -/
structure Settings where
  /-- Hits of a page if the request names no number. -/
  defaultPageSize : UInt64 := 20
  /-- The most hits of a page. -/
  maxPageSize : UInt64 := 1000
  /-- Values of a facet if the request names no number. -/
  defaultFacetLimit : UInt64 := 10
  /-- The most buckets that an aggregation may ask for. -/
  maxFacetSize : UInt64 := 1200000
  /-- The least count of a facet value if the request names none. -/
  defaultFacetMinCount : UInt32 := 1
  /-- The free text that stands for everything and drops all filters. -/
  matchAllSentinel : String := "*"
  /-- The text between the two bounds of a range. -/
  rangeSeparator : String := ","
  /-- The bound that stands for no bound. -/
  rangeWildcard : String := "*"
  /-- The beginning of a value that is excluded. -/
  negationMark : String := "!"
  /-- The beginning of the name of an aggregation inside a filter aggregation. -/
  filteredAggregationMark : String := "filtered_"
  /-- The end of the name of a field with beginnings of values. -/
  autocompleteSuffix : String := "Autocomplete"
  /-- Suggestions if the caller names no number. -/
  defaultSuggestLimit : UInt64 := 10
  /-- Whether engines count all hits. -/
  trackTotalHits : Bool := true
  /-- Milliseconds that an engine has for an answer. -/
  executionTimeoutMilliseconds : UInt64 := 30000
  highlight : HighlightSettings := {}
deriving DecidableEq, Repr

namespace Settings

instance : Inhabited Settings :=
  ⟨{}⟩

def pageSize (settings : Settings) (requested : Option UInt64) : UInt64 :=
  min (requested.getD settings.defaultPageSize) settings.maxPageSize

/-- The time that an engine has for an answer. -/
def executionTimeout (settings : Settings) : Duration :=
  .ofMilliseconds settings.executionTimeoutMilliseconds.toNat

end Settings

end FacetedSearch
