import FacetedSearch.Filter.Selection
import FacetedSearch.Geometry.Normal
import FacetedSearch.Request.Basic
import FacetedSearch.Settings.Validation
import FacetedSearch.Sorting

/-!
Contract: the filters and the free text of a request as a query.

Owns:
- `conditionNode`, the tree of conditions of which a document has to meet one;
- `SearchCompiler.parameterFilter`, the tree of the raw values of one parameter: one of the
  selected values matches, if any is selected, and none of the excluded ones does;
- `SearchCompiler.filters`, one tree for each parameter with a field, in order of the names;
- `SearchCompiler.query`, filters and free text, or nothing if every document matches.

Does not own: the reading of single raw values, and facets.
-/

namespace FacetedSearch

variable {P : Type} [SearchParameter P]

/-! ## Trees of conditions -/

/-- The values of equality conditions, each once, in order of their first occurrence. -/
def distinctValues (conditions : List Condition) : List TypedValue :=
  conditions.foldl (fun values condition =>
    match condition with
    | .equals value =>
        if values.any fun present => present.equal value then values else values ++ [value]
    | _ => values) []

/-- The statement that a field has one of some values, if there are any. -/
def valueNodes (field : String) : List TypedValue → List QueryNode
  | [] => []
  | [value] => [.predicate (.equality field value)]
  | values => [.predicate (.multiEquality field values)]

/-- The statement that a field lies between the bounds of a range condition. -/
def rangeNode? (field : String) : Condition → Option QueryNode
  | .between lower upper => some (.predicate (.range field lower upper))
  | _ => none

/-- The statement that a field lies within the shape of a spatial condition. -/
def shapeNode? (field : String) : Condition → Option QueryNode
  | .inside shape => some (.predicate (.spatial field shape))
  | _ => none

/-- The tree of conditions of which one has to be met: values first, then ranges, then shapes. -/
def conditionNode (field : String) (conditions : List Condition) : Option QueryNode :=
  QueryNode.anyOf
    (valueNodes field (distinctValues conditions) ++ conditions.filterMap (rangeNode? field) ++
      conditions.filterMap (shapeNode? field))

/-- The tree of selections: one selected condition is met, and no excluded one. -/
def selectionNode (field : String) (selections : List Selection) : Option QueryNode :=
  let selected := (selections.filter fun selection => !selection.negated).map Selection.condition
  let excluded := (selections.filter Selection.negated).map Selection.condition
  match conditionNode field selected, conditionNode field excluded with
  | some positive, some negative => some (.and [positive, .not negative])
  | some positive, none => some positive
  | none, some negative => some (.not negative)
  | none, none => none

/-! ## Requests -/

/-- A catalog and settings, which requests are compiled with. -/
structure SearchCompiler (P : Type) [SearchParameter P] where
  catalog : FieldCatalog P
  settings : Settings

namespace SearchCompiler

/-- The compiler of a catalog and settings, if the settings are accepted. -/
def create (catalog : FieldCatalog P) (settings : Settings) :
    Except SearchError (SearchCompiler P) :=
  settings.validated.map fun settings => ⟨catalog, settings⟩

/-- Whether a free text asks for everything. -/
def isMatchAll (compiler : SearchCompiler P) (freeText : Option String) : Bool :=
  freeText.map Text.trim == some compiler.settings.matchAllSentinel

/-- The selection of a raw value of a spatial parameter. -/
def spatialSelection (compiler : SearchCompiler P) (raw : String) :
    Except SearchError Selection :=
  match compiler.settings.filterSyntax.negated? raw with
  | some rest => (Geometry.normalForm rest).map fun shape => ⟨true, .inside shape⟩
  | none => (Geometry.normalForm raw).map fun shape => ⟨false, .inside shape⟩

/-- The type that the raw values of a parameter with a field are read as. -/
def fieldType (compiler : SearchCompiler P) (parameter : P) (field : String) : ValueType :=
  if compiler.catalog.isDateField field then .date else SearchParameter.valueType parameter

/-- The selection of a raw value of a parameter with a field. -/
def readSelection (compiler : SearchCompiler P) (parameter : P) (field raw : String) :
    Except SearchError Selection :=
  if compiler.catalog.isSpatialParameter parameter then compiler.spatialSelection raw
  else
    compiler.settings.filterSyntax.readSelection (compiler.fieldType parameter field) raw

/-- The tree of the raw values of a parameter; nothing if there are none or the parameter has no
field. -/
def parameterFilter (compiler : SearchCompiler P) (parameter : P) (values : RawValues) :
    Except SearchError (Option QueryNode) :=
  match compiler.catalog.fieldFor parameter with
  | none => .ok none
  | some field =>
      (values.values.mapM (compiler.readSelection parameter field)).map (selectionNode field)

/-- The trees of some parameters, in their order. -/
def filtersOf (compiler : SearchCompiler P) :
    List (P × RawValues) → Except SearchError (List (P × QueryNode))
  | [] => .ok []
  | (parameter, values) :: rest =>
      match compiler.parameterFilter parameter values with
      | .error error => .error error
      | .ok none => compiler.filtersOf rest
      | .ok (some node) => (compiler.filtersOf rest).map ((parameter, node) :: ·)

/-- The trees of the parameters of a request, in order of the names. -/
def filters (compiler : SearchCompiler P) (parameters : ParameterValues P) :
    Except SearchError (List QueryNode) :=
  (compiler.filtersOf
    (sortBy (fun entry => SearchParameter.name entry.1) parameters.entries)).map
      fun found => found.map Prod.snd

/-- The clauses for a free text; blank texts have none. -/
def fullTextClauses (compiler : SearchCompiler P) (freeText : Option String) :
    List FullTextClause :=
  match freeText with
  | none => []
  | some text =>
      let trimmed := Text.trim text
      if trimmed = "" then [] else [compiler.catalog.fullTextClause trimmed]

/-- The query of filters and a free text; nothing if every document matches. A free text that asks
for everything drops all filters. -/
def query (compiler : SearchCompiler P) (parameters : ParameterValues P)
    (freeText : Option String) : Except SearchError (Option BoolQuery) :=
  if compiler.isMatchAll freeText then .ok none
  else
    (compiler.filters parameters).map fun filter =>
      let query : BoolQuery := ⟨compiler.fullTextClauses freeText, filter⟩
      if query.isEmpty then none else some query

end SearchCompiler

end FacetedSearch
