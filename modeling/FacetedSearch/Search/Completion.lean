import FacetedSearch.Search.Compiled

/-!
Contract: requests for unfinished words, compiled for any engine.

Owns:
- `CompiledAutocomplete`, documents by the beginning of a field's text;
- `CompiledSuggest`, completions of a field's values;
- their compilation, which gives nothing for parameters without a field.

Does not own: searches for whole words.
-/

namespace FacetedSearch

variable {P : Type} [SearchParameter P]

/-- A request for documents by the beginning of a field's text, compiled. -/
structure CompiledAutocomplete where
  /-- The field with beginnings of values. -/
  field : String
  /-- The field whose first words are compared with the text. -/
  wholeField : String
  /-- Without a text every document matches. -/
  text : Option String
  /-- Whether documents that begin with the text come first. -/
  prefersBeginnings : Bool
  filter : Option BoolQuery
  offset : UInt64
  size : UInt64
  source : SourceFilter

/-- A request for completions, compiled. -/
structure CompiledSuggest where
  field : String
  beginning : String
  size : UInt64
  skipDuplicates : Bool
  source : SourceFilter
deriving DecidableEq, Repr

/-- Texts shorter than this are not compared with the beginnings of fields. -/
def leastBeginning : Nat := 3

namespace SearchCompiler

def suggestSource (compiler : SearchCompiler P) (parameter : P) : SourceFilter :=
  ⟨compiler.catalog.suggestFields parameter, compiler.catalog.excludedResultFields⟩

/-- Compiles a request for documents by the beginning of a parameter's field. -/
def compileAutocomplete (compiler : SearchCompiler P) (request : SearchRequest P)
    (parameter : P) : Except SearchError (Option CompiledAutocomplete) :=
  match compiler.catalog.fieldFor parameter,
    compiler.catalog.autocompleteFieldFor parameter compiler.settings.autocompleteSuffix with
  | some wholeField, some field =>
      (compiler.query request.parameters none).map fun filter =>
        let text := request.trimmedText?
        some
          { field := field
            wholeField := wholeField
            text := text
            prefersBeginnings := text.any fun text => leastBeginning ≤ text.length
            filter := filter
            offset := request.offset
            size := compiler.settings.pageSize request.limit
            source := compiler.suggestSource parameter }
  | _, _ => .ok none

/-- Compiles a request for completions of a parameter's values. -/
def compileSuggest (compiler : SearchCompiler P) (beginning : String) (parameter : P)
    (limit : Option UInt64) : Option CompiledSuggest :=
  (compiler.catalog.fieldFor parameter).map fun field =>
    { field := field
      beginning := beginning
      size := limit.getD compiler.settings.defaultSuggestLimit
      skipDuplicates := true
      source := compiler.suggestSource parameter }

end SearchCompiler

end FacetedSearch
