import FacetedSearch.Proofs.Engine.Solr.Atoms
import FacetedSearch.Proofs.Facet.Split
import FacetedSearch.Proofs.Geometry.Normal
import FacetedSearch.Proofs.Query.Shapes

/-!
Contract: filter expressions are read in one way, as the trees that they were written for.

Owns:
- `QueryNode.SaidBy`, what an expression says: a list of values is a group of equalities with `OR`,
  a day is the range of its times, all else is as in the tree;
- `exists_saying`: the text of a tree with several parts in each group is that of an expression
  that says the tree;
- `SearchCompiler.exists_unique_derivation`: the text of a compiled tree has exactly one derivation.

Field names and bounds are written as they are. A bound that is a free text may hold anything, so
trees with such bounds are left out.

Does not own: which documents meet an expression.
-/

namespace FacetedSearch

open FullText Text Solr

/-! ## What expressions say -/

namespace Solr.Expression

/-- A field with an atom that says something. -/
def Says (field : String) (atomSays : Atom → Prop) (expression : Expression) : Prop :=
  ∃ name atom, expression = .statement name atom ∧ name.chars = field.toList ∧ atomSays atom

/-- A group with some parts, two or more. -/
def Joins (connective : Connective) (partsSay : List Expression → Prop)
    (expression : Expression) : Prop :=
  ∃ first second rest, expression = .group connective first second rest ∧
    partsSay (first :: second :: rest)

/-- An expression that says that a field has a value; a day is the range of its times. -/
def SaysEquality (field : String) (value : TypedValue) : Expression → Prop :=
  match value with
  | .date day => Says field (Atom.SaysBounds (some (.date day)) (some (.date day)))
  | value => Says field (Atom.SaysValue value)

end Solr.Expression

/-- An expression that says a statement. -/
def FilterPredicate.SaidBy : FilterPredicate → Expression → Prop
  | .equality field value => Expression.SaysEquality field value
  | .multiEquality field values =>
      Expression.Joins .or (List.Forall₂ (Expression.SaysEquality field) values)
  | .range field lower upper => Expression.Says field (Atom.SaysBounds lower upper)
  | .spatial field shape => Expression.Says field (Atom.SaysInside shape)

namespace QueryNode

mutual

/-- An expression that says a tree. -/
def SaidBy : QueryNode → Expression → Prop
  | .predicate statement, expression => statement.SaidBy expression
  | .not inner, expression => ∃ negated, expression = .not negated ∧ SaidBy inner negated
  | .or nodes, expression => expression.Joins .or fun parts => AllSaidBy nodes parts
  | .and nodes, expression => expression.Joins .and fun parts => AllSaidBy nodes parts

def AllSaidBy : List QueryNode → List Expression → Prop
  | [], parts => parts = []
  | node :: rest, parts =>
      ∃ part others, parts = part :: others ∧ SaidBy node part ∧ AllSaidBy rest others

end

end QueryNode

/-! ## Groups -/

namespace Solr

def Connective.word : Connective → String
  | .or => "OR"
  | .and => "AND"

theorem joined_cons (separator first : List Char) (rest : List (List Char)) :
    joined separator (first :: rest) = first ++ rest.flatMap (separator ++ ·) := by
  induction rest generalizing first with
  | nil => simp [joined]
  | cons second others inductionHypothesis =>
      rw [joined, inductionHypothesis, List.flatMap_cons]
      · simp only [List.append_assoc]
      · exact List.cons_ne_nil _ _

theorem Expression.charsAfter_eq_flatMap (connective : Connective) (parts : List Expression) :
    charsAfter connective parts = (parts.map chars).flatMap (connective.chars ++ ·) := by
  induction parts with
  | nil => rfl
  | cons part rest inductionHypothesis => simp [charsAfter, inductionHypothesis]

/-- The text of a group joins the texts of its parts. -/
theorem Expression.chars_group (connective : Connective) (first second : Expression)
    (rest : List Expression) :
    (Expression.group connective first second rest).chars =
      Solr.group connective.word ((first :: second :: rest).map chars) := by
  have separator : ' ' :: connective.word.toList ++ [' '] = connective.chars := by
    cases connective <;> rfl
  rw [chars, Solr.group, separator, List.map_cons, joined_cons, List.map_cons, List.flatMap_cons,
    charsAfter_eq_flatMap]
  rfl

/-- Texts of which each is said are said as a group, if there are two or more. -/
theorem exists_joining (connective : Connective) {texts : List (List Char)}
    {partsSay : List Expression → Prop} (several : 2 ≤ texts.length)
    (said : ∃ parts, parts.map Expression.chars = texts ∧ partsSay parts) :
    ∃ expression, expression.chars = group connective.word texts ∧
      Expression.Joins connective partsSay expression := by
  obtain ⟨parts, rfl, say⟩ := said
  rw [List.length_map] at several
  match parts, several, say with
  | first :: second :: rest, _, say =>
      exact ⟨.group connective first second rest, Expression.chars_group _ _ _ _,
        first, second, rest, rfl, say⟩

/-! ## Statements -/

/-- The name of a field that can be written as it is. -/
def IsPlainName (field : String) : Prop :=
  ∀ c ∈ field.toList, IsPlain c

/-- Letters, digits and underscores have no meaning. -/
theorem isPlain_of_isAlphanum {c : Char} (isWord : c.isAlphanum = true ∨ c = '_') :
    IsPlain c := by
  rcases isWord with isAlphanum | rfl
  · have isVisible := toNat_of_isAlphanum isAlphanum
    constructor
    · intro special
      have codes : ∀ other ∈ specialCharacters, ¬ ((48 ≤ other.toNat ∧ other.toNat ≤ 57) ∨
          (65 ≤ other.toNat ∧ other.toNat ≤ 90) ∨ (97 ≤ other.toNat ∧ other.toNat ≤ 122)) :=
        forall_mem_of_all (by decide)
      exact codes c special isVisible
    · apply isBlank_of_visible
      · omega
      · omega
  · exact ⟨by decide, by decide⟩

/-- A statement whose text can be read: its field is a plain name, values are listed if there are
several, its bounds are no free texts, and its shape has the characters of shapes. -/
def Writable : FilterPredicate → Prop
  | .equality field _ => IsPlainName field
  | .multiEquality field values => IsPlainName field ∧ 2 ≤ values.length
  | .range field lower upper =>
      IsPlainName field ∧ (∀ bound ∈ lower, isQuoted bound = false) ∧
        ∀ bound ∈ upper, isQuoted bound = false
  | .spatial field shape => IsPlainName field ∧ Geometry.IsShapeText shape.toList

section Statements

variable {field : String}

theorem exists_bounds (plainName : IsPlainName field) {lower upper : Option TypedValue}
    (lowerBare : ∀ bound ∈ lower, isQuoted bound = false)
    (upperBare : ∀ bound ∈ upper, isQuoted bound = false) :
    ∃ expression : Expression,
      expression.chars = rangeChars field.toList (boundOrWildcard .lower lower)
          (boundOrWildcard .upper upper) ∧
        expression.Says field (Atom.SaysBounds lower upper) := by
  refine ⟨.statement ⟨field.toList, plainName⟩
    (.between (.ofBound .lower lower lowerBare) (.ofBound .upper upper upperBare)), ?_,
    _, _, rfl, rfl, BoundToken.says_ofBound .lower lowerBare,
    BoundToken.says_ofBound .upper upperBare⟩
  simp [Expression.chars, Atom.chars, rangeChars, BoundToken.ofBound]

theorem exists_equality (plainName : IsPlainName field) (value : TypedValue) :
    ∃ expression : Expression,
      expression.chars = Solr.term field value ∧ expression.SaysEquality field value := by
  have ofQuoted (quoted : isQuoted value = true) : ∃ expression : Expression,
      expression.chars = field.toList ++ ':' :: phrase (escape value.asText.toList) ∧
        expression.Says field (Atom.SaysValue value) :=
    ⟨.statement ⟨field.toList, plainName⟩ (.quoted (.ofText value.asText.toList)), rfl,
      _, _, rfl, rfl, quoted, unescaped_escape _⟩
  have ofBare (bare : isQuoted value = false) : ∃ expression : Expression,
      expression.chars = field.toList ++ ':' :: escape value.asText.toList ∧
        expression.Says field (Atom.SaysValue value) :=
    ⟨.statement ⟨field.toList, plainName⟩
      (.bare (.ofText value.asText.toList (isBareText_asText bare))), rfl,
      _, _, rfl, rfl, bare, unescaped_escape _⟩
  cases value with
  | date day =>
      have bare : ∀ bound ∈ some (TypedValue.date day), isQuoted bound = false := by
        intro bound member
        cases member
        rfl
      have ofDay := exists_bounds plainName bare bare
      rw [boundOrWildcard, boundOrWildcard] at ofDay
      exact ofDay
  | text value => exact ofQuoted rfl
  | keyword name => exact ofQuoted rfl
  | uuid uuid => exact ofQuoted rfl
  | boolean value => exact ofBare rfl
  | integer value => exact ofBare rfl
  | long value => exact ofBare rfl
  | double value => exact ofBare rfl
  | float value => exact ofBare rfl

theorem exists_equalities (plainName : IsPlainName field) (values : List TypedValue) :
    ∃ parts : List Expression, parts.map Expression.chars = values.map (Solr.term field) ∧
      List.Forall₂ (Expression.SaysEquality field) values parts := by
  induction values with
  | nil => exact ⟨[], rfl, .nil⟩
  | cons value rest inductionHypothesis =>
      obtain ⟨part, partChars, partSays⟩ := exists_equality plainName value
      obtain ⟨parts, partsChars, partsSay⟩ := inductionHypothesis
      exact ⟨part :: parts, by rw [List.map_cons, List.map_cons, partChars, partsChars],
        .cons partSays partsSay⟩

theorem isQuotable_of_isShapeCharacter {c : Char} (isShape : Geometry.IsShapeCharacter c) :
    IsQuotable c := by
  constructor
  · rintro rfl
    exact absurd isShape (by decide)
  · rintro rfl
    exact absurd isShape (by decide)

theorem exists_inside (plainName : IsPlainName field) {shape : String}
    (isShape : Geometry.IsShapeText shape.toList) :
    ∃ expression : Expression,
      expression.chars = predicateQuery (.spatial field shape) ∧
        expression.Says field (Atom.SaysInside shape) := by
  have quotable : ∀ c ∈ "IsWithin(".toList ++ shape.toList ++ ") distErrPct=0".toList,
      IsQuotable c := by
    have words : ∀ c ∈ "IsWithin(".toList ++ ") distErrPct=0".toList,
        c ≠ '\x22' ∧ c ≠ '\\' :=
      forall_mem_of_all (by decide)
    intro c member
    rcases List.mem_append.1 member with inFront | inEnd
    · rcases List.mem_append.1 inFront with inStart | inShape
      · exact words c (List.mem_append_left _ inStart)
      · exact isQuotable_of_isShapeCharacter (isShape c inShape)
    · exact words c (List.mem_append_right _ inEnd)
  refine ⟨.statement ⟨field.toList, plainName⟩ (.quoted ⟨_, escaped_of_each quotable⟩), ?_,
    _, _, rfl, rfl, unescaped_eq_self quotable⟩
  rw [Expression.chars, Atom.chars, predicateQuery]

end Statements

theorem exists_saying_statement {statement : FilterPredicate} (writable : Writable statement) :
    ∃ expression : Expression,
      expression.chars = predicateQuery statement ∧ statement.SaidBy expression := by
  cases statement with
  | equality field value => exact exists_equality writable value
  | multiEquality field values =>
      have several : 2 ≤ (values.map (Solr.term field)).length := by
        rw [List.length_map]
        exact writable.2
      exact exists_joining .or several (exists_equalities writable.1 values)
  | range field lower upper => exact exists_bounds writable.1 writable.2.1 writable.2.2
  | spatial field shape => exact exists_inside writable.1 writable.2

/-! ## Trees -/

theorem length_filterQueries (nodes : List QueryNode) :
    (filterQueries nodes).length = nodes.length := by
  induction nodes with
  | nil => rfl
  | cons node rest inductionHypothesis => simp [filterQueries, inductionHypothesis]

mutual

/-- The text of a tree is that of an expression that says the tree. -/
theorem exists_saying : ∀ node : QueryNode, node.Grouped →
    (∀ statement ∈ node.predicates, Writable statement) →
    ∃ expression : Expression, expression.chars = filterQuery node ∧ node.SaidBy expression
  | .predicate statement, _, writable =>
      exists_saying_statement (writable statement List.mem_cons_self)
  | .not inner, grouped, writable => by
      obtain ⟨negated, chars, said⟩ := exists_saying inner grouped writable
      exact ⟨.not negated, by rw [Expression.chars, chars, filterQuery], negated, rfl, said⟩
  | .or nodes, ⟨several, grouped⟩, writable =>
      exists_joining .or (by rwa [length_filterQueries])
        (exists_all_saying nodes grouped writable)
  | .and nodes, ⟨several, grouped⟩, writable =>
      exists_joining .and (by rwa [length_filterQueries])
        (exists_all_saying nodes grouped writable)

theorem exists_all_saying : ∀ nodes : List QueryNode, QueryNode.AllGrouped nodes →
    (∀ statement ∈ QueryNode.predicatesOfAll nodes, Writable statement) →
    ∃ parts : List Expression,
      parts.map Expression.chars = filterQueries nodes ∧ QueryNode.AllSaidBy nodes parts
  | [], _, _ => ⟨[], rfl, rfl⟩
  | node :: rest, ⟨grouped, restGrouped⟩, writable => by
      obtain ⟨part, chars, said⟩ := exists_saying node grouped fun statement member =>
        writable statement (List.mem_append_left _ member)
      obtain ⟨parts, restChars, restSaid⟩ :=
        exists_all_saying rest restGrouped fun statement member =>
          writable statement (List.mem_append_right _ member)
      exact ⟨part :: parts, by rw [List.map_cons, chars, restChars, filterQueries],
        part, parts, rfl, said, restSaid⟩

end

end Solr

/-! ## Compiled trees -/

/-- A statement with a bound that is a free text. -/
def FilterPredicate.HasTextBound : FilterPredicate → Prop
  | .range _ lower upper => ∃ text, lower = some (.text text) ∨ upper = some (.text text)
  | _ => False

/-- Values of types with ranges stand without quotes, but for free texts. -/
theorem isQuoted_of_hasType {type : ValueType} {value : TypedValue}
    (supported : type.supportsRanges = true) (hasType : value.HasType type)
    (notText : ∀ text, value ≠ .text text) : isQuoted value = false := by
  cases value with
  | text value => exact absurd rfl (notText value)
  | keyword name =>
      cases type with
      | enumeration vocabulary => cases supported
      | _ => cases hasType
  | uuid uuid =>
      cases type with
      | uuid => cases supported
      | _ => cases hasType
  | boolean value => rfl
  | integer value => rfl
  | long value => rfl
  | double value => rfl
  | float value => rfl
  | date day => rfl

variable {P : Type} [SearchParameter P]

namespace SearchCompiler

variable {compiler : SearchCompiler P} {parameter : P} {values : RawValues} {tree : QueryNode}

theorem writable_of_parameterFilter
    (compiled : compiler.parameterFilter parameter values = .ok (some tree))
    (plainName : ∀ field ∈ compiler.catalog.fieldFor parameter, IsPlainName field)
    (noTextBound : ∀ statement ∈ tree.predicates, ¬ statement.HasTextBound) :
    tree.Grouped ∧ ∀ statement ∈ tree.predicates, Writable statement := by
  obtain ⟨field, conditions, mapped, shape, origin⟩ := shape_of_parameterFilter compiled
  have plain : IsPlainName field := plainName field mapped
  refine ⟨shape.grouped, fun statement member => ?_⟩
  have noBound := noTextBound statement member
  cases shape.stated statement member with
  | value value => exact plain
  | values values several => exact ⟨plain, several⟩
  | range inConditions =>
      obtain ⟨raw, -, read⟩ := origin _ inConditions
      obtain ⟨type, supported, lowerType, upperType⟩ := between_of_readCondition read
      refine ⟨plain, fun bound isBound => ?_, fun bound isBound => ?_⟩
      · apply isQuoted_of_hasType supported (lowerType bound isBound)
        rintro text rfl
        exact noBound ⟨text, .inl isBound⟩
      · apply isQuoted_of_hasType supported (upperType bound isBound)
        rintro text rfl
        exact noBound ⟨text, .inr isBound⟩
  | shape inConditions =>
      obtain ⟨raw, -, read⟩ := origin _ inConditions
      exact ⟨plain, Geometry.isShapeText_of_normalForm (inside_of_readCondition read)⟩

/-- **Filter expressions are read in one way.** Whatever the raw values of a parameter are, the text
of their tree has exactly one derivation, and it says the tree. The field has a plain name and no
bound of a range is a free text. -/
theorem exists_unique_derivation
    (compiled : compiler.parameterFilter parameter values = .ok (some tree))
    (plainName : ∀ field ∈ compiler.catalog.fieldFor parameter, IsPlainName field)
    (noTextBound : ∀ statement ∈ tree.predicates, ¬ statement.HasTextBound) :
    ∃ expression : Expression, tree.SaidBy expression ∧
      ∀ other : Expression, other.chars = filterQuery tree ↔ other = expression := by
  obtain ⟨grouped, writable⟩ := writable_of_parameterFilter compiled plainName noTextBound
  obtain ⟨expression, chars, said⟩ := exists_saying tree grouped writable
  refine ⟨expression, said, fun other => ⟨fun same => ?_, fun same => same ▸ chars⟩⟩
  apply Expression.eq_of_chars_eq
  rw [same, chars]

end SearchCompiler

/-! ## Observations of species -/

namespace Observations

/-- Names with quotes, backslashes and words of the query language. -/
def awkwardNames : RawValues :=
  .ofList ["\x22) OR *:*", "a\\", "!x AND y"]

theorem exists_unique_derivation_awkwardNames :
    ∃ tree, compiler.parameterFilter country awkwardNames = .ok (some tree) ∧
      ∃ expression : Expression, tree.SaidBy expression ∧
        ∀ other : Expression, other.chars = filterQuery tree ↔ other = expression := by
  have compiled : compiler.parameterFilter country awkwardNames = .ok (some
      (.and [.predicate (.multiEquality "country" [.text "\x22) OR *:*", .text "a\\"]),
        .not (.predicate (.equality "country" (.text "x AND y")))])) := rfl
  refine ⟨_, compiled, SearchCompiler.exists_unique_derivation compiled ?_ ?_⟩
  · intro field mapped
    have isCountry : compiler.catalog.fieldFor country = some "country" := by decide +kernel
    obtain rfl := Option.some.inj (isCountry.symm.trans mapped)
    intro c member
    have isWord : ∀ c ∈ "country".toList, c.isAlphanum = true ∨ c = '_' :=
      forall_mem_of_all (by decide)
    exact isPlain_of_isAlphanum (isWord c member)
  · intro statement member
    simp only [QueryNode.predicates, QueryNode.predicatesOfAll, List.append_nil,
      List.cons_append, List.nil_append, List.mem_cons, List.not_mem_nil, or_false] at member
    rcases member with rfl | rfl
    · exact id
    · exact id

end Observations

end FacetedSearch
