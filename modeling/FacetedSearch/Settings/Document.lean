import FacetedSearch.Json.Decoding
import FacetedSearch.Settings.Basic

/-!
Contract: settings in JSON.

Owns: `Settings.toJson`, and `Settings.ofJson?`, in which absent settings have their defaults.
Does not own: bounds on settings.
-/

namespace FacetedSearch

open Json

def HighlightSettings.toJson (highlight : HighlightSettings) : Value :=
  .object
    [("pre_tag", .string highlight.openingTag),
     ("post_tag", .string highlight.closingTag),
     ("number_of_fragments", .ofWord highlight.fragmentCount),
     ("snippets", .ofWord highlight.snippets),
     ("fragment_size", .ofWord highlight.fragmentSize)]

def HighlightSettings.fields : FieldTable :=
  ["pre_tag", "post_tag", "number_of_fragments", "snippets", "fragment_size"].map
    fun name => (name, .allowed)

def HighlightSettings.decode : Decoder HighlightSettings := fun allowance document => do
  let record ← HighlightSettings.fields.read? allowance document
  let default : HighlightSettings := {}
  return {
    openingTag := ← record.defaulted? "pre_tag" default.openingTag Decoder.text
    closingTag := ← record.defaulted? "post_tag" default.closingTag Decoder.text
    fragmentCount := ← record.defaulted? "number_of_fragments" default.fragmentCount Decoder.word
    snippets := ← record.defaulted? "snippets" default.snippets Decoder.word
    fragmentSize := ← record.defaulted? "fragment_size" default.fragmentSize Decoder.word }

namespace Settings

def toJson (settings : Settings) : Value :=
  .object
    [("default_page_size", .ofWord settings.defaultPageSize),
     ("max_page_size", .ofWord settings.maxPageSize),
     ("default_facet_limit", .ofWord settings.defaultFacetLimit),
     ("max_facet_size", .ofWord settings.maxFacetSize),
     ("default_facet_min_count", .ofNat settings.defaultFacetMinCount.toNat),
     ("match_all_sentinel", .string settings.matchAllSentinel),
     ("range_separator", .string settings.rangeSeparator),
     ("range_wildcard", .string settings.rangeWildcard),
     ("negation_prefix", .string settings.negationMark),
     ("filtered_aggregation_prefix", .string settings.filteredAggregationMark),
     ("autocomplete_suffix", .string settings.autocompleteSuffix),
     ("default_suggest_limit", .ofWord settings.defaultSuggestLimit),
     ("track_total_hits", .boolean settings.trackTotalHits),
     ("execution_timeout_ms", .ofWord settings.executionTimeoutMilliseconds),
     ("highlight", settings.highlight.toJson)]

def fields : FieldTable :=
  ["default_page_size", "max_page_size", "default_facet_limit", "max_facet_size",
   "default_facet_min_count", "match_all_sentinel", "range_separator", "range_wildcard",
   "negation_prefix", "filtered_aggregation_prefix", "autocomplete_suffix",
   "default_suggest_limit", "track_total_hits", "execution_timeout_ms", "highlight"].map
    fun name => (name, .allowed)

def decode : Decoder Settings := fun allowance document => do
  let record ← Settings.fields.read? allowance document
  let default : Settings := {}
  return {
    defaultPageSize :=
      ← record.defaulted? "default_page_size" default.defaultPageSize Decoder.word
    maxPageSize := ← record.defaulted? "max_page_size" default.maxPageSize Decoder.word
    defaultFacetLimit :=
      ← record.defaulted? "default_facet_limit" default.defaultFacetLimit Decoder.word
    maxFacetSize := ← record.defaulted? "max_facet_size" default.maxFacetSize Decoder.word
    defaultFacetMinCount :=
      ← record.defaulted? "default_facet_min_count" default.defaultFacetMinCount Decoder.halfWord
    matchAllSentinel :=
      ← record.defaulted? "match_all_sentinel" default.matchAllSentinel Decoder.text
    rangeSeparator := ← record.defaulted? "range_separator" default.rangeSeparator Decoder.text
    rangeWildcard := ← record.defaulted? "range_wildcard" default.rangeWildcard Decoder.text
    negationMark := ← record.defaulted? "negation_prefix" default.negationMark Decoder.text
    filteredAggregationMark :=
      ← record.defaulted? "filtered_aggregation_prefix" default.filteredAggregationMark
        Decoder.text
    autocompleteSuffix :=
      ← record.defaulted? "autocomplete_suffix" default.autocompleteSuffix Decoder.text
    defaultSuggestLimit :=
      ← record.defaulted? "default_suggest_limit" default.defaultSuggestLimit Decoder.word
    trackTotalHits :=
      ← record.defaulted? "track_total_hits" default.trackTotalHits Decoder.boolean
    executionTimeoutMilliseconds :=
      ← record.defaulted? "execution_timeout_ms" default.executionTimeoutMilliseconds Decoder.word
    highlight := ← record.defaulted? "highlight" default.highlight HighlightSettings.decode }

def ofJson? (text : String) : Option Settings :=
  decode? decode text

end Settings

end FacetedSearch
