import FacetedSearch.Proofs.Engine.Elasticsearch.Selecting
import FacetedSearch.Proofs.Query.Shapes

/-!
Contract: which documents a request for unfinished words selects.

Owns:
- `selects_bool_of_preferred`: beside required parts no optional part has to select a document;
- `populated_of_grouped`: trees of parameters keep their meaning in the query language;
- `IndexedDocument.MatchesTyped`, documents with the typed words or with the typed beginning;
- `isHit_autocompleteBody_iff`: the typed text decides which documents are hits exactly if the
  request has no filters.

Does not own: the order of hits, which the typed text always decides.
-/

namespace FacetedSearch

open Json

/-! ## Trees of parameters -/

namespace QueryNode

mutual

theorem populated_of_grouped : ∀ node : QueryNode, node.Grouped → node.populated = true
  | .predicate _, _ => rfl
  | .not inner, grouped => populated_of_grouped inner grouped
  | .or nodes, ⟨several, each⟩ => by
      rw [populated, Bool.and_eq_true, Bool.not_eq_true', List.isEmpty_eq_false_iff]
      exact ⟨List.ne_nil_of_length_pos (by omega), allPopulated_of_allGrouped nodes each⟩
  | .and nodes, ⟨several, each⟩ => by
      rw [populated, Bool.and_eq_true, Bool.not_eq_true', List.isEmpty_eq_false_iff]
      exact ⟨List.ne_nil_of_length_pos (by omega), allPopulated_of_allGrouped nodes each⟩

theorem allPopulated_of_allGrouped :
    ∀ nodes : List QueryNode, AllGrouped nodes → allPopulated nodes = true
  | [], _ => rfl
  | node :: rest, ⟨grouped, each⟩ => by
      rw [allPopulated, Bool.and_eq_true]
      exact ⟨populated_of_grouped node grouped, allPopulated_of_allGrouped rest each⟩

end

end QueryNode

namespace SearchCompiler

variable {P : Type} [SearchParameter P] {compiler : SearchCompiler P}

theorem grouped_of_mem_treesOf {entries : List (P × RawValues)} {node : QueryNode}
    (member : node ∈ compiler.treesOf entries) : node.Grouped := by
  obtain ⟨selection, found, rfl⟩ := List.mem_map.1 member
  obtain ⟨entry, -, isSelection⟩ := List.mem_filterMap.1 found
  obtain ⟨-, compiled⟩ := of_selection?_eq_some isSelection
  obtain ⟨_, _, -, shape, -⟩ := shape_of_parameterFilter compiled
  exact shape.grouped

/-- Without a free text a query has no clauses, and there is none without filters. -/
theorem of_query_without_text {parameters : ParameterValues P} {found : Option BoolQuery}
    (compiled : compiler.query parameters none = .ok found) :
    (BoolQuery.filtersOf found).Perm (compiler.treesOf parameters.entries) ∧
      ∀ query ∈ found, query.must = [] ∧ query.filter ≠ [] := by
  refine ⟨(of_query_eq_ok compiled).2, ?_⟩
  obtain ⟨nodes, -, isFound⟩ := map_eq_ok_iff.1 compiled
  rintro query isQuery
  rw [Option.mem_def] at isQuery
  subst isQuery
  dsimp only [fullTextClauses] at isFound
  split at isFound
  · cases isFound
  · rename_i notEmpty
    cases isFound
    refine ⟨rfl, fun noFilter => notEmpty ?_⟩
    simp only [BoolQuery.isEmpty, List.isEmpty_nil, Bool.true_and, List.isEmpty_iff]
    exact noFilter

end SearchCompiler

namespace Elasticsearch

variable (document : IndexedDocument)

/-! ## Optional parts -/

theorem parts_of_preferred (must should : List Value) :
    let body := Value.object (listMember "must" must ++ listMember "should" should)
    parts body "must" = must ∧ parts body "filter" = [] ∧ parts body "must_not" = [] ∧
      parts body "should" = should ∧ body.member? "minimum_should_match" = none := by
  cases must <;> cases should <;> exact ⟨rfl, rfl, rfl, rfl, rfl⟩

/-- Optional parts of which no number is stated count only if there are no required ones. -/
theorem selects_bool_of_preferred {must should : List Value} (some : should ≠ []) :
    Selects document
        (.single "bool" (.object (listMember "must" must ++ listMember "should" should))) ↔
      (∀ query ∈ must, Selects document query) ∧
        (must = [] → ∃ query ∈ should, Selects document query) := by
  obtain ⟨isMust, noFilter, noExcluding, isShould, notStated⟩ := parts_of_preferred must should
  have required : requiredOptional
      (.object (listMember "must" must ++ listMember "should" should)) =
        if must = [] then 1 else 0 := by
    simp [requiredOptional, notStated, isMust, noFilter, isShould, some]
  rw [selects_bool, isMust, noFilter, noExcluding, isShould, required]
  constructor
  · rintro (partless | ⟨each, -, -, chosen, fromOptional, many, chosenSelect⟩)
    · exact absurd (isShould.symm.trans (partless "should" (by simp))) some
    · refine ⟨each, fun none => ?_⟩
      rw [if_pos none] at many
      obtain ⟨query, isChosen⟩ := List.exists_mem_of_length_pos many
      exact ⟨query, fromOptional.subset isChosen, chosenSelect query isChosen⟩
  · rintro ⟨each, preferred⟩
    refine .inr ⟨each, by simp, by simp, ?_⟩
    by_cases none : must = []
    · obtain ⟨query, member, selects⟩ := preferred none
      exact ⟨[query], List.singleton_sublist.2 member, by simp [none], by simpa using selects⟩
    · exact ⟨[], List.nil_sublist _, by simp [none], by simp⟩

/-! ## Typed texts -/

/-- Whether a document matches a typed text: it has all words of the text, or it begins with the
text, if the text is long enough to be compared with beginnings. -/
def IndexedDocument.MatchesTyped (request : CompiledAutocomplete) (text : String) : Prop :=
  document.hasWords request.field "and" text ∨
    leastBeginning ≤ text.length ∧ Selects document (beginningQuery request.wholeField text)

theorem selects_wordsQuery (field text : String) :
    Selects document (wordsQuery field text) ↔ document.hasWords field "and" text := by
  rw [wordsQuery, nested, selects_of_ne_bool document (by decide)]
  simp [IndexedDocument.SelectedBy, Value.single, Value.member?, Value.memberOf?, Value.string?]

theorem exists_autocompleteShould_iff {request : CompiledAutocomplete} {text : String}
    (typed : request.text = some text)
    (prefers : request.prefersBeginnings = decide (leastBeginning ≤ text.length)) :
    (∃ query ∈ autocompleteShould request, Selects document query) ↔
      document.MatchesTyped request text := by
  unfold autocompleteShould IndexedDocument.MatchesTyped
  rw [typed, prefers]
  dsimp only
  rw [List.exists_mem_cons_iff, selects_wordsQuery]
  by_cases long : leastBeginning ≤ text.length
  · simp [long]
  · simp [long]

/-- With a typed text the part for the filters is the only required one. -/
theorem isHit_of_typed {request : CompiledAutocomplete} {text : String}
    (typed : request.text = some text)
    (prefers : request.prefersBeginnings = decide (leastBeginning ≤ text.length)) :
    document.IsHit (autocompleteBody request) ↔
      (∀ query ∈ (request.filter.map boolQuery).toList, Selects document query) ∧
        ((request.filter.map boolQuery).toList = [] → document.MatchesTyped request text) := by
  have isMust : autocompleteMust request = (request.filter.map boolQuery).toList := by
    simp [autocompleteMust, typed]
  have someShould : autocompleteShould request ≠ [] := by
    simp [autocompleteShould, typed]
  have isHit : document.IsHit (autocompleteBody request) ↔
      Selects document
        (.single "bool"
          (.object
            (listMember "must" (autocompleteMust request) ++
              listMember "should" (autocompleteShould request)))) := by
    simp [IndexedDocument.IsHit, autocompleteBody, Value.member?, Value.memberOf?]
  rw [isHit, selects_bool_of_preferred document someShould,
    exists_autocompleteShould_iff document typed prefers, isMust]

/-! ## Requests -/

variable {P : Type} [SearchParameter P] {compiler : SearchCompiler P}

/-- The part for the filters selects the documents that meet them all. -/
theorem selects_filters_iff {parameters : ParameterValues P} {found : Option BoolQuery}
    (compiled : compiler.query parameters none = .ok found) :
    ((∀ query ∈ (found.map boolQuery).toList, Selects document query) ↔
        QueryNode.AllHold document.truth (compiler.treesOf parameters.entries)) ∧
      ((found.map boolQuery).toList = [] ↔ compiler.treesOf parameters.entries = []) := by
  obtain ⟨sameFilters, ofQuery⟩ := SearchCompiler.of_query_without_text compiled
  cases found with
  | none =>
      have noTrees : compiler.treesOf parameters.entries = [] := sameFilters.nil_eq.symm
      simp [noTrees, QueryNode.AllHold]
  | some query =>
      obtain ⟨noClauses, someFilter⟩ := ofQuery query rfl
      have sameTrees : query.filter.Perm (compiler.treesOf parameters.entries) := sameFilters
      have someTree : compiler.treesOf parameters.entries ≠ [] := fun noTrees =>
        someFilter (noTrees ▸ sameTrees).eq_nil
      have populated : QueryNode.allPopulated query.filter = true := by
        refine QueryNode.allPopulated_of_allGrouped _ ((QueryNode.allGrouped_iff _).2 ?_)
        exact fun node member => SearchCompiler.grouped_of_mem_treesOf (sameTrees.mem_iff.1 member)
      have meets := document.facts.meets_congr noClauses sameTrees
      rw [← selects_boolQuery document populated] at meets
      refine ⟨?_, by simp [someTree]⟩
      simpa [DocumentFacts.Meets, IndexedDocument.facts] using meets

/-- **Filters replace the typed text.** With filters, the hits of a request for unfinished words are
all documents that meet the filters, whether or not they match the typed text. Only without filters
are they the documents that match it. -/
theorem isHit_autocompleteBody_iff {request : SearchRequest P} {parameter : P}
    {compiled : CompiledAutocomplete} {text : String}
    (isCompiled : compiler.compileAutocomplete request parameter = .ok (some compiled))
    (typed : request.trimmedText? = some text) :
    let filters := compiler.treesOf request.parameters.entries
    document.IsHit (autocompleteBody compiled) ↔
      QueryNode.AllHold document.truth filters ∧
        (filters = [] → document.MatchesTyped compiled text) := by
  intro filters
  unfold SearchCompiler.compileAutocomplete at isCompiled
  split at isCompiled
  · obtain ⟨filter, queried, isRequest⟩ := map_eq_ok_iff.1 isCompiled
    cases isRequest
    obtain ⟨ofFilters, noFilters⟩ := selects_filters_iff document queried
    have prefers : (request.trimmedText?.any fun text => leastBeginning ≤ text.length) =
        decide (leastBeginning ≤ text.length) := by simp [typed]
    rw [isHit_of_typed document typed prefers, ofFilters, noFilters]
  · cases isCompiled

end Elasticsearch

/-! ## Observations of species -/

namespace Observations

open Elasticsearch

/-- A lion that was observed in Denmark. -/
def lion : IndexedDocument :=
  { puma with hasWords := fun _ _ text => text = "lion" }

/-- Kingdoms of what is called puma. -/
def typed : SearchRequest DeclaredParameter where
  freeText := some " puma"

/-- The same in Denmark. -/
def typedInDenmark : SearchRequest DeclaredParameter :=
  { typed with parameters := .ofEntries [(country, .ofList ["DK"])] }

theorem not_matchesTyped_lion (request : CompiledAutocomplete) :
    ¬ lion.MatchesTyped request "puma" := by
  rintro (words | ⟨-, beginning⟩)
  · exact absurd (show "puma" = "lion" from words) (by decide)
  · rw [beginningQuery, selects_of_ne_bool lion (by decide)] at beginning
    exact beginning

theorem isHit_autocompleteBody_iff_pumas :
    ∃ inDenmark anywhere,
      compiler.compileAutocomplete typedInDenmark kingdom = .ok (some inDenmark) ∧
        compiler.compileAutocomplete typed kingdom = .ok (some anywhere) ∧
        lion.IsHit (autocompleteBody inDenmark) ∧ ¬ lion.IsHit (autocompleteBody anywhere) ∧
        puma.IsHit (autocompleteBody anywhere) := by
  have compiled : ∃ inDenmark anywhere,
      compiler.compileAutocomplete typedInDenmark kingdom = .ok (some inDenmark) ∧
        compiler.compileAutocomplete typed kingdom = .ok (some anywhere) := ⟨_, _, rfl, rfl⟩
  obtain ⟨inDenmark, anywhere, filtered, unfiltered⟩ := compiled
  have trees : compiler.treesOf typedInDenmark.parameters.entries =
      [.predicate (.equality "country" (.text "DK"))] := rfl
  have meets : QueryNode.AllHold lion.truth [.predicate (.equality "country" (.text "DK"))] :=
    ⟨.inl ⟨rfl, rfl⟩, trivial⟩
  refine ⟨inDenmark, anywhere, filtered, unfiltered, ?_, fun hit => ?_, ?_⟩
  · refine (isHit_autocompleteBody_iff lion filtered rfl).2 ?_
    rw [trees]
    exact ⟨meets, fun none => absurd none (List.cons_ne_nil _ _)⟩
  · obtain ⟨-, matchesTyped⟩ := (isHit_autocompleteBody_iff lion unfiltered rfl).1 hit
    exact not_matchesTyped_lion anywhere (matchesTyped rfl)
  · exact (isHit_autocompleteBody_iff puma unfiltered rfl).2 ⟨trivial, fun _ => .inl rfl⟩

/-- Beside a filter, documents without the typed text are hits. -/
theorem untyped_documents_hit :
    typedInDenmark.trimmedText? = some "puma" ∧
      ∃ compiled, compiler.compileAutocomplete typedInDenmark kingdom = .ok (some compiled) ∧
        lion.IsHit (autocompleteBody compiled) ∧ ¬ lion.MatchesTyped compiled "puma" := by
  refine ⟨rfl, _, rfl, ?_, not_matchesTyped_lion _⟩
  have onCountry : Selects lion
      (boolQuery ⟨[], [.predicate (.equality "country" (.text "DK"))]⟩) :=
    (selects_boolQuery lion rfl).2 ⟨by simp, .inl ⟨rfl, rfl⟩, trivial⟩
  refine (isHit_of_typed lion rfl rfl).2 ⟨?_, fun none => ?_⟩
  · intro query member
    cases member with
    | head => exact onCountry
    | tail _ others => cases others
  · cases none

end Observations

end FacetedSearch
