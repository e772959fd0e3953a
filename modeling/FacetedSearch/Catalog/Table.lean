import FacetedSearch.Catalog.Basic
import FacetedSearch.Keyed

/-!
Contract: catalogs built from declarations.

Owns:
- `Declaration`, a single statement about an index, and `CatalogTable`, what some statements add
  up to;
- `CatalogTable.catalog`, the catalog of a table;
- `CatalogTable.bareCatalog`, which takes from the table only what every catalog has to know.

A later statement replaces an earlier one about the same thing; statements that collect fields
append them.

Does not own: the choices of an application that states nothing.
-/

namespace FacetedSearch

variable {P : Type} [SearchParameter P]

/-- A statement about an index. -/
inductive Declaration (P : Type) where
  /-- The parameter filters the field. -/
  | field (parameter : P) (field : String)
  /-- The parameter filters the field, which holds dates. -/
  | dateField (parameter : P) (field : String)
  /-- The parameter filters the field by shapes. -/
  | spatialField (parameter : P) (field : String)
  | cardinality (field : String) (count : UInt64)
  | excludeResultField (field : String)
  | includeResultField (field : String)
  | sort (sort : SortField)
  | highlightField (field : String)
  | autocompleteSuffix (suffix : String)
  | autocompleteField (parameter : P) (field : String)
  | suggestFields (parameter : P) (fields : List String)
  /-- How indexed values of the parameter are shown. -/
  | indexedValue (parameter : P) (shown : String → String)
  /-- The clause for a free text. -/
  | fullText (clause : String → FullTextClause)

/-- What some statements add up to. -/
structure CatalogTable (P : Type) [SearchParameter P] where
  fields : Keyed P String := .empty
  parameters : Keyed String P := .empty
  cardinalities : Keyed String UInt64 := .empty
  dateFields : List String := []
  spatialParameters : List P := []
  excluded : List String := []
  included : List String := []
  sort : List SortField := []
  highlight : List String := []
  autocompleteSuffix : Option String := none
  autocompleteFields : Keyed P String := .empty
  suggestFields : Keyed P (List String) := .empty
  indexedValues : Keyed P (String → String) := .empty
  fullText : Option (String → FullTextClause) := none

namespace CatalogTable

def empty : CatalogTable P :=
  {}

instance : Inhabited (CatalogTable P) :=
  ⟨empty⟩

/-- The table with a parameter that filters a field. -/
def mapField (table : CatalogTable P) (parameter : P) (field : String) : CatalogTable P :=
  { table with
    parameters := table.parameters.insert field parameter
    fields := table.fields.insert parameter field }

def declare (table : CatalogTable P) : Declaration P → CatalogTable P
  | .field parameter field => table.mapField parameter field
  | .dateField parameter field =>
      { table with dateFields := field :: table.dateFields }.mapField parameter field
  | .spatialField parameter field =>
      { table with spatialParameters := parameter :: table.spatialParameters }.mapField
        parameter field
  | .cardinality field count =>
      { table with cardinalities := table.cardinalities.insert field count }
  | .excludeResultField field => { table with excluded := table.excluded ++ [field] }
  | .includeResultField field => { table with included := table.included ++ [field] }
  | .sort sort => { table with sort := table.sort ++ [sort] }
  | .highlightField field => { table with highlight := table.highlight ++ [field] }
  | .autocompleteSuffix suffix => { table with autocompleteSuffix := some suffix }
  | .autocompleteField parameter field =>
      { table with autocompleteFields := table.autocompleteFields.insert parameter field }
  | .suggestFields parameter fields =>
      { table with suggestFields := table.suggestFields.insert parameter fields }
  | .indexedValue parameter shown =>
      { table with indexedValues := table.indexedValues.insert parameter shown }
  | .fullText clause => { table with fullText := some clause }

def ofDeclarations (declarations : List (Declaration P)) : CatalogTable P :=
  declarations.foldl declare empty

def size (table : CatalogTable P) : Nat :=
  table.fields.entries.length

/-- The catalog of a table without the choices of the application. -/
def bareCatalog (table : CatalogTable P) : FieldCatalog P where
  fieldFor := table.fields.find?
  parameterFor := table.parameters.find?
  cardinalityOf := table.cardinalities.find?
  isDateField := fun field => table.dateFields.contains field
  isSpatialParameter := fun parameter => decide (parameter ∈ table.spatialParameters)

def catalog (table : CatalogTable P) : FieldCatalog P :=
  let bare := table.bareCatalog
  { bare with
    excludedResultFields := table.excluded
    includedResultFields := table.included
    defaultSortOrder := table.sort
    autocompleteFieldFor := fun parameter suffix =>
      match table.autocompleteFields.find? parameter with
      | some field => some field
      | none => bare.autocompleteFieldFor parameter (table.autocompleteSuffix.getD suffix)
    highlightFields := table.highlight
    suggestFields := fun parameter =>
      (table.suggestFields.find? parameter).getD (bare.suggestFields parameter)
    indexedValue := fun parameter value =>
      match table.indexedValues.find? parameter with
      | some shown => shown value
      | none => bare.indexedValue parameter value
    fullTextClause := table.fullText.getD bare.fullTextClause }

end CatalogTable

end FacetedSearch
