import FacetedSearch.Engine.Solr.Response
import FacetedSearch.Proofs.Json.Members
import FacetedSearch.Proofs.Json.Tokens
import FacetedSearch.Proofs.Json.Words
import FacetedSearch.Proofs.Outcome

/-!
Contract: the counts of facets, which answers have as flat lists of names and counts in turn.

Owns:
- `flatList`, the list of some names with their counts, and `bucketsOf`, their buckets;
- `BreaksOff`, a list whose first pair is no name and count, with the fault that it is refused for,
  and `exists_front`: every list is a flat one and after it nothing or a list that breaks off;
- `Flaw`, what keeps a list from being flat, said of its length or of one element, and `flaw_iff`:
  a list is flat or has a flaw;
- `ShowsCounts` and `IsRefusedFor`, what is read from the lists of all fields and how this fails;
- `ListsFields`, the documents with lists under the names of fields;
- `only_flat_lists_are_read`, which puts these together for single lists and for whole answers.

Does not own: which field an aggregation belongs to, and the other parts of an answer.
-/

namespace FacetedSearch.Solr

open Json

/-! ## Flat lists -/

/-- Names and counts in turn. -/
def flatList (counts : List (String × UInt64)) : List Value :=
  counts.flatMap fun count => [.string count.1, .ofWord count.2]

/-- The buckets of names with their counts, in order. -/
def bucketsOf (counts : List (String × UInt64)) : List Bucket :=
  counts.map fun count => ⟨.text count.1, count.2⟩

theorem flatList_cons (key : String) (count : UInt64) (counts : List (String × UInt64)) :
    flatList ((key, count) :: counts) = .string key :: .ofWord count :: flatList counts :=
  rfl

theorem getElem?_flatList_name (counts : List (String × UInt64)) (position : Nat) :
    (flatList counts)[2 * position]? = counts[position]?.map fun count => .string count.1 := by
  induction counts generalizing position with
  | nil => rfl
  | cons count rest inductionHypothesis =>
      cases position with
      | zero => rfl
      | succ position => exact inductionHypothesis position

theorem getElem?_flatList_count (counts : List (String × UInt64)) (position : Nat) :
    (flatList counts)[2 * position + 1]? =
      counts[position]?.map fun count => .ofWord count.2 := by
  induction counts generalizing position with
  | nil => rfl
  | cons count rest inductionHypothesis =>
      cases position with
      | zero => rfl
      | succ position => exact inductionHypothesis position

theorem length_flatList (counts : List (String × UInt64)) :
    (flatList counts).length = 2 * counts.length := by
  induction counts with
  | nil => rfl
  | cons count rest inductionHypothesis =>
      rw [flatList_cons, List.length_cons, List.length_cons, inductionHypothesis, List.length_cons]
      omega

/-! ## The first wrong pair -/

/-- A list whose first pair is no name and count, and why reading it is refused. -/
inductive BreaksOff (field : String) : List Value → ResponseFault → Prop where
  | unpaired (value : Value) : BreaksOff field [value] (.countsNotPairs field)
  | unnamed {name : Value} (count : Value) (rest : List Value) (noText : name.string? = none) :
      BreaksOff field (name :: count :: rest) (.countsNotPairs field)
  | uncounted (key : String) {count : Value} (rest : List Value) (isNoWord : count.IsNoWord) :
      BreaksOff field (.string key :: count :: rest) (.badCount key field)

theorem flatCounts_of_breaksOff {field : String} {values : List Value} {fault : ResponseFault}
    (breaksOff : BreaksOff field values fault) :
    flatCounts field values = .error (.response fault) := by
  cases breaksOff with
  | unpaired value => cases value <;> rfl
  | @unnamed name count rest noText =>
      cases name with
      | string key => cases noText
      | _ => rfl
  | uncounted key rest isNoWord => rw [flatCounts, Value.word?_eq_none_iff.2 isNoWord]

/-- Names and counts are read one after the other, whatever follows them. -/
theorem flatCounts_append (field : String) (counts : List (String × UInt64))
    (rest : List Value) :
    flatCounts field (flatList counts ++ rest) =
      (flatCounts field rest).map (bucketsOf counts ++ ·) := by
  induction counts with
  | nil => cases read : flatCounts field rest <;> simp [flatList, bucketsOf, Except.map, read]
  | cons count others inductionHypothesis =>
      obtain ⟨key, count⟩ := count
      rw [flatList_cons, List.cons_append, List.cons_append, flatCounts, Value.word?_ofWord]
      dsimp only
      rw [inductionHypothesis]
      cases flatCounts field rest <;> rfl

/-- A list is flat up to its first wrong pair, if it has one. Pairs are cut off in front, so the
recursion goes on behind the second element. -/
theorem exists_front (field : String) : ∀ values : List Value,
    ∃ counts rest, values = flatList counts ++ rest ∧
      (rest = [] ∨ ∃ fault, BreaksOff field rest fault)
  | [] => ⟨[], [], rfl, .inl rfl⟩
  | [value] => ⟨[], [value], rfl, .inr ⟨_, .unpaired value⟩⟩
  | name :: count :: others => by
      cases atName : name.string? with
      | none => exact ⟨[], _, rfl, .inr ⟨_, .unnamed count others atName⟩⟩
      | some key =>
          have isName : name = .string key := by
            cases name <;> cases atName
            rfl
          subst isName
          cases atCount : count.word? with
          | none =>
              have isNoWord := Value.word?_eq_none_iff.1 atCount
              exact ⟨[], _, rfl, .inr ⟨_, .uncounted key others isNoWord⟩⟩
          | some word =>
              rw [Value.word?_eq_some_iff.1 atCount]
              obtain ⟨counts, rest, rfl, ends⟩ := exists_front field others
              exact ⟨(key, word) :: counts, rest, rfl, ends⟩

/-- A list is read exactly if it is flat. -/
theorem flatCounts_eq_ok_iff (field : String) (values : List Value) (buckets : List Bucket) :
    flatCounts field values = .ok buckets ↔
      ∃ counts, values = flatList counts ∧ buckets = bucketsOf counts := by
  constructor
  · intro read
    obtain ⟨counts, rest, rfl, ends⟩ := exists_front field values
    rw [flatCounts_append] at read
    rcases ends with rfl | ⟨fault, breaksOff⟩
    · cases read
      exact ⟨counts, List.append_nil _, List.append_nil _⟩
    · rw [flatCounts_of_breaksOff breaksOff] at read
      cases read
  · rintro ⟨counts, rfl, rfl⟩
    have whole := flatCounts_append field counts []
    rw [List.append_nil] at whole
    rw [whole]
    exact congrArg Except.ok (List.append_nil _)

/-- A list that is not flat is refused for its first wrong pair. -/
theorem exists_breaksOff_of_not_flat (field : String) {values : List Value}
    (notFlat : ∀ counts, values ≠ flatList counts) :
    ∃ counts rest fault, values = flatList counts ++ rest ∧ BreaksOff field rest fault ∧
      flatCounts field values = .error (.response fault) := by
  obtain ⟨counts, rest, rfl, ends⟩ := exists_front field values
  rcases ends with rfl | ⟨fault, breaksOff⟩
  · exact absurd (List.append_nil _) (notFlat counts)
  · refine ⟨counts, rest, fault, rfl, breaksOff, ?_⟩
    rw [flatCounts_append, flatCounts_of_breaksOff breaksOff]
    rfl

/-! ## Flaws -/

/-- What keeps a list from being flat: a length that leaves its last element without a pair, or
something else in the place of a name or of a count. -/
inductive Flaw (values : List Value) : Prop where
  | oddLength (odd : values.length % 2 = 1)
  | noName (position : Nat) {value : Value} (stands : values[2 * position]? = some value)
      (noText : value.string? = none)
  | noCount (position : Nat) {value : Value} (stands : values[2 * position + 1]? = some value)
      (isNoWord : value.IsNoWord)

theorem flaw_of_breaksOff {field : String} (counts : List (String × UInt64)) {rest : List Value}
    {fault : ResponseFault} (breaksOff : BreaksOff field rest fault) :
    Flaw (flatList counts ++ rest) := by
  have front := length_flatList counts
  cases breaksOff with
  | unpaired value =>
      apply Flaw.oddLength
      rw [List.length_append, front, List.length_singleton]
      omega
  | unnamed count rest noText =>
      refine .noName counts.length ?_ noText
      rw [← front, List.getElem?_append_right (Nat.le_refl _), Nat.sub_self]
      rfl
  | uncounted key rest isNoWord =>
      refine .noCount counts.length ?_ isNoWord
      rw [← front, List.getElem?_append_right (Nat.le_add_right _ 1), Nat.add_sub_cancel_left]
      rfl

/-- A list has a flaw exactly if it is not flat. -/
theorem flaw_iff (values : List Value) : Flaw values ↔ ∀ counts, values ≠ flatList counts := by
  constructor
  · rintro flaw counts rfl
    cases flaw with
    | oddLength odd =>
        rw [length_flatList] at odd
        omega
    | noName position stands noText =>
        rw [getElem?_flatList_name] at stands
        obtain ⟨count, -, rfl⟩ := Option.map_eq_some_iff.1 stands
        cases noText
    | noCount position stands isNoWord =>
        rw [getElem?_flatList_count] at stands
        obtain ⟨count, -, rfl⟩ := Option.map_eq_some_iff.1 stands
        have noWord := Value.word?_eq_none_iff.2 isNoWord
        rw [Value.word?_ofWord] at noWord
        cases noWord
  · intro notFlat
    -- The field only names the fault.
    obtain ⟨counts, rest, fault, rfl, breaksOff, -⟩ := exists_breaksOff_of_not_flat "" notFlat
    exact flaw_of_breaksOff counts breaksOff

/-! ## The counts of all fields -/

/-- What is read from the counts of a field. -/
def fieldCounts (entry : String × Value) : Except SearchError (String × RawAggregation) :=
  match entry.2.elements? with
  | none => .error (.response (.countsNotList entry.1))
  | some values =>
      (flatCounts entry.1 values).map fun buckets =>
        (String.ofList (withoutLocalParameters entry.1.toList), .terms buckets)

theorem facetCounts_eq_mapM (entries : List (String × Value)) :
    facetCounts entries = entries.mapM fieldCounts := by
  induction entries with
  | nil => rfl
  | cons entry rest inductionHypothesis =>
      obtain ⟨name, value⟩ := entry
      rw [mapM_cons_eq, ← inductionHypothesis, facetCounts, fieldCounts]
      cases value.elements? with
      | none => rfl
      | some values =>
          dsimp only
          cases flatCounts name values <;> rfl

/-- A field with a flat list, and the aggregation with its buckets under the field's own name. -/
def ShowsCounts (entry : String × Value) (aggregation : String × RawAggregation) : Prop :=
  ∃ counts, entry.2 = .array (flatList counts) ∧
    aggregation =
      (String.ofList (withoutLocalParameters entry.1.toList), .terms (bucketsOf counts))

/-- Why the counts of a field are refused. -/
inductive Refuses : String × Value → ResponseFault → Prop where
  | notList {name : String} {value : Value} (noList : value.elements? = none) :
      Refuses (name, value) (.countsNotList name)
  | wrongPair {name : String} (counts : List (String × UInt64)) {rest : List Value}
      {fault : ResponseFault} (breaksOff : BreaksOff name rest fault) :
      Refuses (name, .array (flatList counts ++ rest)) fault

theorem elements?_eq_some_iff {value : Value} {values : List Value} :
    value.elements? = some values ↔ value = .array values := by
  cases value <;> simp [Value.elements?]

theorem fieldCounts_eq_ok_iff (entry : String × Value) (aggregation : String × RawAggregation) :
    fieldCounts entry = .ok aggregation ↔ ShowsCounts entry aggregation := by
  unfold fieldCounts ShowsCounts
  cases elements : entry.2.elements? with
  | none =>
      refine ⟨nofun, ?_⟩
      rintro ⟨counts, isList, -⟩
      rw [isList] at elements
      cases elements
  | some values =>
      rw [elements?_eq_some_iff.1 elements]
      dsimp only
      simp only [map_eq_ok_iff, flatCounts_eq_ok_iff, Value.array.injEq]
      constructor
      · rintro ⟨buckets, ⟨counts, isFlat, rfl⟩, rfl⟩
        exact ⟨counts, isFlat, rfl⟩
      · rintro ⟨counts, isFlat, rfl⟩
        exact ⟨_, ⟨counts, isFlat, rfl⟩, rfl⟩

theorem refuses_of_fieldCounts {entry : String × Value} {error : SearchError}
    (failed : fieldCounts entry = .error error) :
    ∃ fault, error = .response fault ∧ Refuses entry fault := by
  obtain ⟨name, value⟩ := entry
  unfold fieldCounts at failed
  split at failed
  · rename_i noList
    cases failed
    exact ⟨_, rfl, .notList noList⟩
  · rename_i values elements
    cases elements?_eq_some_iff.1 elements
    have failedList := map_eq_error_iff.1 failed
    have notFlat : ∀ counts, values ≠ flatList counts := by
      rintro counts rfl
      rw [(flatCounts_eq_ok_iff name _ _).2 ⟨counts, rfl, rfl⟩] at failedList
      cases failedList
    obtain ⟨counts, rest, fault, rfl, breaksOff, refused⟩ :=
      exists_breaksOff_of_not_flat name notFlat
    rw [refused] at failedList
    cases failedList
    exact ⟨fault, rfl, .wrongPair counts breaksOff⟩

theorem facetCounts_eq_ok_iff (entries : List (String × Value))
    (aggregations : List (String × RawAggregation)) :
    facetCounts entries = .ok aggregations ↔ List.Forall₂ ShowsCounts entries aggregations := by
  simp only [facetCounts_eq_mapM, mapM_eq_ok_iff, fieldCounts_eq_ok_iff]

/-- The fault of the first field whose counts are refused. -/
def IsRefusedFor (entries : List (String × Value)) (fault : ResponseFault) : Prop :=
  ∃ before entry after, entries = before ++ entry :: after ∧
    (∀ earlier ∈ before, ∃ aggregation, ShowsCounts earlier aggregation) ∧ Refuses entry fault

theorem exists_fault_of_facetCounts_eq_error {entries : List (String × Value)}
    {error : SearchError} (failed : facetCounts entries = .error error) :
    ∃ fault, error = .response fault ∧ IsRefusedFor entries fault := by
  rw [facetCounts_eq_mapM] at failed
  obtain ⟨before, entry, after, split, succeed, fails⟩ := exists_first_of_mapM_eq_error failed
  obtain ⟨fault, isResponse, refuses⟩ := refuses_of_fieldCounts fails
  refine ⟨fault, isResponse, before, entry, after, split, ?_, refuses⟩
  intro earlier isBefore
  obtain ⟨aggregation, read⟩ := succeed earlier isBefore
  exact ⟨aggregation, (fieldCounts_eq_ok_iff earlier aggregation).1 read⟩

/-! ## Answers -/

section Readable

variable (idField : String) {text : String} {read : Answer}
  (isAnswer : decode? answer text = some read)

include isAnswer

theorem readSearch_of_answer : readSearch idField text = resultOf idField read := by
  rw [readSearch, isAnswer]

theorem exists_readSearch_iff (aggregations : List (String × RawAggregation)) :
    (∃ result, readSearch idField text = .ok result ∧ result.aggregations = aggregations) ↔
      List.Forall₂ ShowsCounts read.counts aggregations := by
  rw [readSearch_of_answer idField isAnswer, ← facetCounts_eq_ok_iff, resultOf]
  cases facetCounts read.counts <;> simp [Except.map]

/-- One flaw in one list and the whole answer is refused. -/
theorem readSearch_of_flaw {field : String} {values : List Value}
    (listed : (field, .array values) ∈ read.counts) (flaw : Flaw values) :
    ∃ fault, IsRefusedFor read.counts fault ∧
      readSearch idField text = .error (.response fault) := by
  rw [readSearch_of_answer idField isAnswer, resultOf]
  cases outcome : facetCounts read.counts with
  | error error =>
      obtain ⟨fault, rfl, refused⟩ := exists_fault_of_facetCounts_eq_error outcome
      exact ⟨fault, refused, rfl⟩
  | ok aggregations =>
      rw [facetCounts_eq_mapM] at outcome
      obtain ⟨aggregation, -, read⟩ := exists_result_of_mapM_eq_ok outcome listed
      obtain ⟨counts, isFlat, -⟩ := (fieldCounts_eq_ok_iff _ _).1 read
      exact absurd (Value.array.inj isFlat) ((flaw_iff values).1 flaw counts)

end Readable

/-! ## Documents -/

/-- The allowance inside the three objects that enclose the list of a field. -/
def listAllowance : Nat :=
  nestingAllowance - 3

/-- The members of an answer with documents under the names of fields. They may come in any order
and among others; those beside the counts have the form that answers have. -/
structure ListsFields (fields parts members : List (String × Document)) : Prop where
  distinct : (members.map Prod.fst).Nodup
  response : ∃ part documents, ("response", part) ∈ members ∧
    documentList (listAllowance + 2) part = some documents
  highlighting : ∀ part, ("highlighting", part) ∈ members → ∃ found,
    Decoder.map (Decoder.map (Decoder.list Decoder.text)) (listAllowance + 2) part = some found
  spelling : ∀ part, ("spellcheck", part) ∈ members → ∃ found,
    Decoder.nullable spelling (listAllowance + 2) part = some found
  counts : ("facet_counts", Document.ofMembers parts) ∈ members
  distinctParts : (parts.map Prod.fst).Nodup
  fields : ("facet_fields", Document.ofMembers fields) ∈ parts

theorem countTable_ofMembers {fields parts : List (String × Document)}
    (distinct : (parts.map Prod.fst).Nodup)
    (present : ("facet_fields", Document.ofMembers fields) ∈ parts)
    {entries : List (String × Value)}
    (reads : List.Forall₂ (Decoder.ReadsMember (Decoder.value listAllowance)) fields entries) :
    countTable (listAllowance + 2) (.ofMembers parts) = some (sortMembers entries) := by
  have isMap : Decoder.map Decoder.value (listAllowance + 1) (.ofMembers fields) =
      some (sortMembers entries) := by
    rw [Document.ofMembers, Decoder.map, Decoder.eachMember?_eq_some reads]
    rfl
  let table : FieldTable := [("facet_fields", .allowed)]
  have complete : ∀ field ∈ table, field.2 = .refused → field.1 ∈ parts.map Prod.fst := by
    simp [table]
  have atFields := Record.field?_eq_some table distinct (listAllowance + 1) (by decide) present
  unfold countTable
  dsimp only
  rw [table.read?_ofMembers (listAllowance + 1) distinct complete, Option.bind_eq_bind,
    Option.bind_some, Record.defaulted?, atFields]
  exact isMap

/-- The fields of an answer. -/
def answerFields : FieldTable :=
  [("response", .refused), ("highlighting", .allowed), ("facet_counts", .allowed),
   ("spellcheck", .allowed)]

/-- The counts of an answer are the values under the names of its fields, whatever they are. -/
theorem answer_of_listsFields {fields parts members : List (String × Document)}
    (lists : ListsFields fields parts members) {entries : List (String × Value)}
    (reads : List.Forall₂ (Decoder.ReadsMember (Decoder.value listAllowance)) fields entries) :
    ∃ read, answer nestingAllowance (.ofMembers members) = some read ∧
      read.counts = sortMembers entries := by
  obtain ⟨response, documents, inMembers, responseRead⟩ := lists.response
  have complete : ∀ field ∈ answerFields, field.2 = .refused → field.1 ∈ members.map Prod.fst := by
    simpa [answerFields] using ⟨response, inMembers⟩
  have whole : nestingAllowance = (listAllowance + 2) + 1 := rfl
  have record := answerFields.read?_ofMembers (listAllowance + 2) lists.distinct complete
  have atResponse := Record.field?_eq_some answerFields lists.distinct (listAllowance + 2)
    (by decide) inMembers
  have atCounts := Record.field?_eq_some answerFields lists.distinct (listAllowance + 2)
    (by decide) lists.counts
  obtain ⟨highlighting, atHighlighting⟩ := Record.exists_defaulted?_eq_some answerFields
    lists.distinct (listAllowance + 2) (by decide) [] lists.highlighting
  obtain ⟨spelling, atSpelling⟩ := Record.exists_defaulted?_eq_some answerFields
    lists.distinct (listAllowance + 2) (by decide) none lists.spelling
  have countsRead :
      Decoder.nullable countTable (listAllowance + 2) (.ofMembers parts) =
        some (some (sortMembers entries)) :=
    congrArg (Option.map some) (countTable_ofMembers lists.distinctParts lists.fields reads)
  refine ⟨⟨documents, highlighting, sortMembers entries, spelling⟩, ?_, rfl⟩
  unfold answer
  dsimp only
  rw [← answerFields, whole, record]
  simp only [Option.bind_eq_bind, Option.bind_some, Record.required?, atResponse, responseRead,
    atHighlighting, atSpelling]
  rw [Record.defaulted?, atCounts]
  simp only [countsRead, Option.bind_some]
  rfl

/-- **Only flat lists are read.** A list is read exactly if it is names and counts in turn, and then
as the buckets of these names and counts. Any other list has a flaw: its length is odd, or at some
position something stands for a name that is no text or something for a count that is no integer of
64 bits without a sign. It is refused for its first wrong pair. An answer is read exactly if all of
its lists are flat, and then its aggregations have their buckets, list by list; one flaw in one of
them and the whole answer is refused. The lists of an answer are what its document has under the
names of its fields. -/
theorem only_flat_lists_are_read :
    (∀ field values buckets, flatCounts field values = .ok buckets ↔
      ∃ counts, values = flatList counts ∧ buckets = bucketsOf counts) ∧
    (∀ values, Flaw values ↔ ∀ counts, values ≠ flatList counts) ∧
    (∀ field values, Flaw values → ∃ counts rest fault, values = flatList counts ++ rest ∧
      BreaksOff field rest fault ∧ flatCounts field values = .error (.response fault)) ∧
    (∀ idField text read, decode? answer text = some read →
      (∀ aggregations,
        (∃ result, readSearch idField text = .ok result ∧ result.aggregations = aggregations) ↔
          List.Forall₂ ShowsCounts read.counts aggregations) ∧
      ∀ field values, (field, .array values) ∈ read.counts → Flaw values →
        ∃ fault, IsRefusedFor read.counts fault ∧
          readSearch idField text = .error (.response fault)) ∧
    ∀ text fields parts members entries, Document.read? text = some (.ofMembers members) →
      ListsFields fields parts members →
      List.Forall₂ (Decoder.ReadsMember (Decoder.value listAllowance)) fields entries →
        ∃ read, decode? answer text = some read ∧ read.counts = sortMembers entries := by
  refine ⟨flatCounts_eq_ok_iff, flaw_iff, ?_, ?_, ?_⟩
  · intro field values flaw
    exact exists_breaksOff_of_not_flat field ((flaw_iff values).1 flaw)
  · intro idField text read isAnswer
    refine ⟨exists_readSearch_iff idField isAnswer, ?_⟩
    intro field values listed flaw
    exact readSearch_of_flaw idField isAnswer listed flaw
  · intro text fields parts members entries written lists reads
    obtain ⟨read, isAnswer, counts⟩ := answer_of_listsFields lists reads
    refine ⟨read, ?_, counts⟩
    rw [decode?, written]
    exact isAnswer

end FacetedSearch.Solr

/-! ## Observations of pumas -/

namespace FacetedSearch.Observations

open Json Solr

/-- An integer of one digit. -/
def digitDocument (negative : Bool) (digit : Char) : Document :=
  .number ⟨negative, [digit], [], none⟩

/-- Counts of two countries, the second one below zero if so told. -/
def countryLists (negative : Bool) : List (String × Document) :=
  [("country", .array
    [.string (some "DK"), digitDocument false '4', .string (some "NO"),
      digitDocument negative '1'])]

def countryParts (negative : Bool) : List (String × Document) :=
  [("facet_fields", .ofMembers (countryLists negative))]

def countryMembers (negative : Bool) : List (String × Document) :=
  [("response", .ofMembers [("numFound", digitDocument false '5')]),
    ("facet_counts", .ofMembers (countryParts negative))]

def countryChars (negative : Bool) : List Char :=
  (["\x7b\"response\": \x7b\"numFound\": 5\x7d, \"facet_counts\": \x7b\"facet_fields\": ",
     "\x7b\"country\": [\"DK\", 4, \"NO\", ", if negative then "-1" else "1",
     "]\x7d\x7d\x7d"].map String.toList).flatten

def countryText (negative : Bool) : String :=
  String.ofList (countryChars negative)

def countryValues (last : Int) : List Value :=
  [.string "DK", .number (.integer 4), .string "NO", .number (.integer last)]

theorem read?_countryText (negative : Bool) :
    Document.read? (countryText negative) = some (.ofMembers (countryMembers negative)) := by
  apply Document.read?_ofList
  cases negative <;> decide +kernel

theorem listsFields_countryMembers (negative : Bool) :
    ListsFields (countryLists negative) (countryParts negative) (countryMembers negative) where
  distinct := by simp [countryMembers]
  response := ⟨_, ⟨5, []⟩, List.mem_cons_self, rfl⟩
  highlighting := by simp [countryMembers]
  spelling := by simp [countryMembers]
  counts := by simp [countryMembers]
  distinctParts := by simp [countryParts]
  fields := List.mem_cons_self

theorem readsMember_countryLists {negative : Bool} {last : Int}
    (written : Literal.number? ⟨negative, ['1'], [], none⟩ = some (.integer last)) :
    List.Forall₂ (Decoder.ReadsMember (Decoder.value listAllowance)) (countryLists negative)
      [("country", .array (countryValues last))] := by
  have four : Literal.number? ⟨false, ['4'], [], none⟩ = some (.integer 4) := rfl
  refine .cons ⟨rfl, ?_⟩ .nil
  simp [listAllowance, nestingAllowance, Decoder.value, Decoder.values, digitDocument, four,
    written, countryValues]

theorem only_flat_lists_are_read_pumas :
    (∃ result, readSearch "id" (countryText false) = .ok result ∧
      result.aggregations = [("country", .terms [⟨.text "DK", 4⟩, ⟨.text "NO", 1⟩])]) ∧
    Flaw (countryValues (-1)) ∧
    ∃ fault, readSearch "id" (countryText true) = .error (.response fault) := by
  obtain ⟨-, -, -, whole, listed⟩ := only_flat_lists_are_read
  have belowZero : (countryValues (-1))[2 * 1 + 1]? = some (.number (.integer (-1))) := rfl
  have flaw : Flaw (countryValues (-1)) := .noCount 1 belowZero (.negative (by decide))
  refine ⟨?_, flaw, ?_⟩
  · obtain ⟨read, isAnswer, counts⟩ := listed _ _ _ _ _ (read?_countryText false)
      (listsFields_countryMembers false) (readsMember_countryLists rfl)
    refine ((whole "id" _ read isAnswer).1 _).2 ?_
    rw [counts]
    exact .cons ⟨[("DK", 4), ("NO", 1)], rfl, rfl⟩ .nil
  · obtain ⟨read, isAnswer, counts⟩ := listed _ _ _ _ _ (read?_countryText true)
      (listsFields_countryMembers true) (readsMember_countryLists rfl)
    have present : ("country", .array (countryValues (-1))) ∈ read.counts := by
      rw [counts]
      exact List.mem_singleton_self _
    obtain ⟨fault, -, refused⟩ := (whole "id" _ read isAnswer).2 _ _ present flaw
    exact ⟨fault, refused⟩

end FacetedSearch.Observations
