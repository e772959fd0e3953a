import FacetedSearch.Parameter
import FacetedSearch.Query.Node

/-!
Contract: what the library knows of an index of documents.

Owns: `FieldCatalog`, the fields of parameters and the parameters of fields, the kinds of fields,
and the choices of an application, each with what holds if the application makes none.

Does not own: tables from which catalogs are built.
-/

namespace FacetedSearch

/-- The direction of a sort key. -/
inductive SortDirection where
  | ascending
  | descending
deriving DecidableEq, Repr

namespace SortDirection

def name : SortDirection → String
  | .ascending => "asc"
  | .descending => "desc"

def ofName? (name : String) : Option SortDirection :=
  [ascending, descending].find? fun direction => direction.name == name

end SortDirection

/-- A field to sort by. -/
structure SortField where
  field : String
  direction : SortDirection
deriving DecidableEq, Repr

/-- The field with the words of all fields. -/
def defaultFullTextField : String :=
  "all"

/-- What the library knows of an index of documents. -/
structure FieldCatalog (P : Type) [SearchParameter P] where
  /-- The field that a parameter filters. -/
  fieldFor : P → Option String
  /-- The parameter that filters a field. -/
  parameterFor : String → Option P
  /-- The number of different values of a field, as far as it is known. -/
  cardinalityOf : String → Option UInt64
  isDateField : String → Bool
  isSpatialParameter : P → Bool
  /-- Fields that answers leave out. -/
  excludedResultFields : List String := []
  /-- Fields that answers hold; none stands for all. -/
  includedResultFields : List String := []
  /-- The order of answers without free text. -/
  defaultSortOrder : List SortField := []
  /-- The field with beginnings of values of a parameter, given the usual end of its name. -/
  autocompleteFieldFor : P → String → Option String :=
    fun parameter suffix => (fieldFor parameter).map (· ++ suffix)
  highlightFields : List String := []
  /-- Fields that answers to unfinished words hold. -/
  suggestFields : P → List String := fun parameter => (fieldFor parameter).toList
  /-- The value that an indexed value of a parameter stands for. -/
  indexedValue : P → String → String := fun parameter value =>
    match SearchParameter.valueType parameter with
    | .enumeration vocabulary => (vocabulary.canonical? value).getD value
    | _ => value
  /-- The clause for a free text. -/
  fullTextClause : String → FullTextClause := fun text => .match defaultFullTextField text

end FacetedSearch
