import FacetedSearch.Filter.TypedValue
import FacetedSearch.Json.Access

/-!
Contract: queries that no engine's language shows in.

Owns:
- `FilterPredicate`, a statement about one field of a document;
- `QueryNode`, statements combined by negation, disjunction and conjunction, with the predicates of
  a tree from left to right;
- `FullTextClause` and `BoolQuery`, the clauses that rank documents beside the filters that only
  select them;
- the JSON values of all of these.

Does not own: how requests become queries, and the languages of engines.
-/

namespace FacetedSearch

open Json

/-- A statement about one field. -/
inductive FilterPredicate where
  /-- The field has the value. -/
  | equality (field : String) (value : TypedValue)
  /-- The field has one of the values. -/
  | multiEquality (field : String) (values : List TypedValue)
  /-- The field lies between the bounds that there are. -/
  | range (field : String) (lower upper : Option TypedValue)
  /-- The field lies within the shape. -/
  | spatial (field shape : String)
deriving DecidableEq

namespace FilterPredicate

def field : FilterPredicate → String
  | .equality field _ => field
  | .multiEquality field _ => field
  | .range field _ _ => field
  | .spatial field _ => field

def toJson : FilterPredicate → Value
  | .equality field value =>
      .object [("type", .string "equality"), ("field", .string field), ("value", value.toJson)]
  | .multiEquality field values =>
      .object
        [("type", .string "multi_equality"), ("field", .string field),
         ("values", .array (values.map TypedValue.toJson))]
  | .range field lower upper =>
      .object
        [("type", .string "range"), ("field", .string field),
         ("lower", orNull TypedValue.toJson lower), ("upper", orNull TypedValue.toJson upper)]
  | .spatial field shape =>
      .object [("type", .string "spatial"), ("field", .string field), ("shape", .string shape)]

end FilterPredicate

/-- A tree of statements. -/
inductive QueryNode where
  | predicate (statement : FilterPredicate)
  | not (inner : QueryNode)
  | or (nodes : List QueryNode)
  | and (nodes : List QueryNode)

namespace QueryNode

instance : Inhabited QueryNode :=
  ⟨.or []⟩

/-- The disjunction of some trees: nothing of none, and one tree as it is. -/
def anyOf : List QueryNode → Option QueryNode
  | [] => none
  | [node] => some node
  | nodes => some (.or nodes)

/-- The conjunction of some trees: nothing of none, and one tree as it is. -/
def allOf : List QueryNode → Option QueryNode
  | [] => none
  | [node] => some node
  | nodes => some (.and nodes)

mutual

/-- The statements of a tree from left to right. -/
def predicates : QueryNode → List FilterPredicate
  | .predicate statement => [statement]
  | .not inner => inner.predicates
  | .or nodes => predicatesOfAll nodes
  | .and nodes => predicatesOfAll nodes

/-- The statements of some trees from left to right. -/
def predicatesOfAll : List QueryNode → List FilterPredicate
  | [] => []
  | node :: rest => node.predicates ++ predicatesOfAll rest

end

/-- Whether some statement of a tree is about the field. -/
def touchesField (field : String) (node : QueryNode) : Bool :=
  node.predicates.any fun predicate => predicate.field == field

mutual

def toJson : QueryNode → Value
  | .predicate statement => .object [("op", .string "predicate"), ("args", statement.toJson)]
  | .not inner => .object [("op", .string "not"), ("args", inner.toJson)]
  | .or nodes => .object [("op", .string "or"), ("args", .array (allToJson nodes))]
  | .and nodes => .object [("op", .string "and"), ("args", .array (allToJson nodes))]

def allToJson : List QueryNode → List Value
  | [] => []
  | node :: rest => node.toJson :: allToJson rest

end

end QueryNode

/-- A clause that ranks documents by a free text. -/
inductive FullTextClause where
  /-- The field contains the words of the text. -/
  | match (field text : String)
  /-- A query in the language of an engine. -/
  | queryString (query : String)
deriving DecidableEq, Repr

def FullTextClause.toJson : FullTextClause → Value
  | .match field text =>
      .object [("type", .string "match"), ("field", .string field), ("text", .string text)]
  | .queryString query => .object [("type", .string "query_string"), ("query", .string query)]

/-- Clauses that rank documents and filters that select them; documents meet all of both. -/
structure BoolQuery where
  must : List FullTextClause
  filter : List QueryNode

namespace BoolQuery

instance : Inhabited BoolQuery :=
  ⟨⟨[], []⟩⟩

def isEmpty (query : BoolQuery) : Bool :=
  query.must.isEmpty && query.filter.isEmpty

def filterFor? (query : BoolQuery) (field : String) : Option QueryNode :=
  query.filter.find? (QueryNode.touchesField field)

def toJson (query : BoolQuery) : Value :=
  .object
    [("must", .array (query.must.map FullTextClause.toJson)),
     ("filter", .array (QueryNode.allToJson query.filter))]

end BoolQuery

end FacetedSearch
