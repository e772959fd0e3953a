import FacetedSearch.Engine.Elasticsearch.Response
import FacetedSearch.Proofs.Json.Members
import FacetedSearch.Proofs.Json.Words
import FacetedSearch.Proofs.Outcome

/-!
Contract: answers that show buckets under the names of aggregations.

Owns:
- `ShowsBucket`, `ShowsTerms` and `ShowsFilter`, the documents that show a bucket, some buckets, and
  some buckets inside a filter;
- `ShowsAggregation` and `Answers`, the documents that answer an aggregation and a whole body;
- `readAggregation_of_showsTerms` and `readAggregation_of_showsFilter`, what is read from them, and
  `readSearch_of_answers`.

Members of objects may come in any order, and scalars of other names may stand among them, as
engines add them.

Does not own: which field an aggregation belongs to.
-/

namespace FacetedSearch.Elasticsearch

open Json

/-! ## Documents -/

/-- A document without parts. -/
def IsScalar (document : Document) : Prop :=
  ∃ value, Decoder.value 0 document = some value

/-- An object with the given members, in any order, and with scalars of other names. No such scalar
takes the name that tells aggregations with buckets from filters. -/
def ShowsMembers (shown : List (String × Document)) (document : Document) : Prop :=
  ∃ members, document = .ofMembers members ∧ (members.map Prod.fst).Nodup ∧
    (∀ member ∈ shown, member ∈ members) ∧
    ∀ member ∈ members, member ∈ shown ∨ (member.1 ≠ "buckets" ∧ IsScalar member.2)

/-- A text or an integer as the value that a bucket counts. -/
inductive ShowsKey : BucketKey → Document → Prop where
  | text (key : String) : ShowsKey (.text key) (.string (some key))
  | integer (key : Int64) (literal : Literal)
      (written : literal.number? = some (.integer key.toInt)) :
      ShowsKey (.integer key) (.number literal)

/-- A number of documents. -/
inductive ShowsCount (count : UInt64) : Document → Prop where
  | number (literal : Literal) (written : literal.number? = some (.integer count.toNat)) :
      ShowsCount count (.number literal)

/-- A bucket with its key and its count. -/
def ShowsBucket (bucket : Bucket) (document : Document) : Prop :=
  ∃ key count, ShowsKey bucket.key key ∧ ShowsCount bucket.count count ∧
    ShowsMembers [("key", key), ("doc_count", count)] document

/-- A list of buckets in order. -/
def ShowsTerms (buckets : List Bucket) (document : Document) : Prop :=
  ∃ documents, List.Forall₂ ShowsBucket buckets documents ∧
    ShowsMembers [("buckets", .array documents)] document

/-- A filter that holds a list of buckets under a name. -/
def ShowsFilter (inner : String) (buckets : List Bucket) (document : Document) : Prop :=
  ∃ count countDocument terms, ShowsCount count countDocument ∧ ShowsTerms buckets terms ∧
    ShowsMembers [("doc_count", countDocument), (inner, terms)] document

/-- The answer to an aggregation of a body: buckets, or buckets inside a filter. -/
inductive ShowsAggregation : Value → List Bucket → Document → Prop where
  | terms {request : Value} {buckets : List Bucket} {document : Document}
      (shows : ShowsTerms buckets document) :
      ShowsAggregation (.single "terms" request) buckets document
  | filter {query request : Value} {inner : String} {buckets : List Bucket} {document : Document}
      (shows : ShowsFilter inner buckets document) :
      ShowsAggregation (.object [("filter", query), ("aggs", .single inner request)]) buckets
        document

/-- The aggregations of a body, each with its name. -/
def askedAggregations (body : Value) : List (String × Value) :=
  ((body.member? "aggs").bind Value.members?).getD []

/-- Answers to aggregations, one under each name and no others. -/
structure AnswersAggregations (asked : List (String × Value))
    (bucketsOf : String → List Bucket) (answers : List (String × Document)) : Prop where
  distinct : (answers.map Prod.fst).Nodup
  complete : ∀ aggregation ∈ asked, aggregation.1 ∈ answers.map Prod.fst
  shows : ∀ entry ∈ answers, ∃ aggregation, (entry.1, aggregation) ∈ asked ∧
    ShowsAggregation aggregation (bucketsOf entry.1) entry.2

theorem AnswersAggregations.mem_names_iff {asked : List (String × Value)}
    {bucketsOf : String → List Bucket} {answers : List (String × Document)}
    (shows : AnswersAggregations asked bucketsOf answers) (name : String) :
    name ∈ answers.map Prod.fst ↔ name ∈ asked.map Prod.fst := by
  constructor
  · intro inAnswers
    obtain ⟨member, isMember, rfl⟩ := List.mem_map.1 inAnswers
    obtain ⟨aggregation, isAsked, -⟩ := shows.shows member isMember
    exact List.mem_map_of_mem isAsked
  · intro isAsked
    obtain ⟨aggregation, inAsked, rfl⟩ := List.mem_map.1 isAsked
    exact shows.complete aggregation inAsked

/-- An answer to a body: hits, the aggregations that the body asks for, and members of other names.
An answer without aggregations may omit the empty object. -/
def Answers (body : Value) (bucketsOf : String → List Bucket) (document : Document) : Prop :=
  ∃ members answers hits found, document = .ofMembers members ∧ (members.map Prod.fst).Nodup ∧
    ("hits", hits) ∈ members ∧ hitList (nestingAllowance - 1) hits = some found ∧
    AnswersAggregations (askedAggregations body) bucketsOf answers ∧
    (("aggregations", Document.ofMembers answers) ∈ members ∨
      (answers = [] ∧ "aggregations" ∉ members.map Prod.fst))

theorem ShowsMembers.ofMembers {members : List (String × Document)}
    (distinct : (members.map Prod.fst).Nodup) : ShowsMembers members (.ofMembers members) :=
  ⟨members, rfl, distinct, fun _ shown => shown, fun _ shown => .inl shown⟩

/-! ## Scalars -/

theorem value_of_isScalar {document : Document} (scalar : IsScalar document) (allowance : Nat) :
    ∃ value, Decoder.value allowance document = some value ∧ value.isObject = false := by
  obtain ⟨value, read⟩ := scalar
  cases document with
  | null => exact ⟨.null, by simp [Decoder.value], rfl⟩
  | boolean flag => exact ⟨.boolean flag, by simp [Decoder.value], rfl⟩
  | number literal =>
      simp only [Decoder.value, Option.map_eq_some_iff] at read
      obtain ⟨number, written, rfl⟩ := read
      exact ⟨.number number, by simp [Decoder.value, written], rfl⟩
  | string text =>
      simp only [Decoder.value, Option.map_eq_some_iff] at read
      obtain ⟨content, rfl, rfl⟩ := read
      exact ⟨.string content, by simp [Decoder.value], rfl⟩
  | array elements => simp [Decoder.value] at read
  | object members => simp [Decoder.value] at read

theorem value_of_showsKey {key : BucketKey} {document : Document} (shows : ShowsKey key document)
    (allowance : Nat) :
    ∃ value, Decoder.value allowance document = some value ∧ bucketKey? value = some key := by
  cases shows with
  | text key => exact ⟨.string key, by simp [Decoder.value], rfl⟩
  | integer key literal written =>
      refine ⟨.number (.integer key.toInt), by simp [Decoder.value, written], ?_⟩
      have lower := key.le_toInt
      have upper := key.toInt_lt
      have inRange : Numeral.minInt64 ≤ key.toInt ∧ key.toInt ≤ Numeral.maxInt64 := by
        unfold Numeral.minInt64 Numeral.maxInt64
        omega
      simp only [bucketKey?, Number.asInt64?]
      rw [if_pos inRange, Int64.ofInt_toInt]

theorem value_of_showsCount {count : UInt64} {document : Document}
    (shows : ShowsCount count document) (allowance : Nat) :
    ∃ value, Decoder.value allowance document = some value ∧ value.word? = some count ∧
      value.isObject = false := by
  cases shows with
  | number literal written =>
      have read : Decoder.value allowance (.number literal) = some (.ofWord count) := by
        rw [Decoder.value, written]
        rfl
      exact ⟨.ofWord count, read, Value.word?_ofWord count, rfl⟩

/-! ## Objects -/

/-- An object is read member by member. -/
theorem value_of_showsMembers {shown : List (String × Document)} {document : Document}
    (shows : ShowsMembers shown document) (allowance : Nat)
    (readable : ∀ member ∈ shown, ∃ value, Decoder.value allowance member.2 = some value) :
    ∃ results, Decoder.value (allowance + 1) document = some (.object results) ∧
      (∀ name part value, (name, part) ∈ shown → Decoder.value allowance part = some value →
        Value.memberOf? name results = some value) ∧
      ∀ result ∈ results, (result.1 ≠ "buckets" ∧ result.2.isObject = false) ∨
        ∃ member ∈ shown, result.1 = member.1 ∧
          Decoder.value allowance member.2 = some result.2 := by
  obtain ⟨members, rfl, distinct, included, others⟩ := shows
  have readableAll : ∀ member ∈ members, ∃ value,
      Decoder.value allowance member.2 = some value := by
    intro member inMembers
    rcases others member inMembers with inShown | ⟨-, scalar⟩
    · exact readable member inShown
    · obtain ⟨value, read, -⟩ := value_of_isScalar scalar allowance
      exact ⟨value, read⟩
  obtain ⟨results, read, keys, sources⟩ := Decoder.map_ofMembers distinct readableAll
  refine ⟨results, ?_, ?_, ?_⟩
  · rw [Decoder.value_ofMembers, read]
    rfl
  · intro name part value inShown readPart
    apply Value.memberOf?_eq_some_of_forall
    · exact keys.mem_iff.2 (List.mem_map_of_mem (included _ inShown))
    · intro result inResults sameName
      obtain ⟨member, inMembers, resultName, readMember⟩ := sources result inResults
      have sameMember : member = (name, part) :=
        List.inj_on_of_nodup_map distinct inMembers (included _ inShown)
          (resultName.symm.trans sameName)
      rw [sameMember, readPart] at readMember
      exact (Option.some.inj readMember).symm
  · intro result inResults
    obtain ⟨member, inMembers, resultName, readMember⟩ := sources result inResults
    rcases others member inMembers with inShown | ⟨notBuckets, scalar⟩
    · exact .inr ⟨member, inShown, resultName, readMember⟩
    · obtain ⟨value, readScalar, notObject⟩ := value_of_isScalar scalar allowance
      rw [readMember] at readScalar
      cases readScalar
      exact .inl ⟨resultName ▸ notBuckets, notObject⟩

/-! ## Aggregations -/

theorem readBucket_of_showsBucket {bucket : Bucket} {document : Document}
    (shows : ShowsBucket bucket document) (name : String) (allowance : Nat) :
    ∃ value, Decoder.value (allowance + 1) document = some value ∧
      readBucket name value = .ok bucket := by
  obtain ⟨keyDocument, countDocument, showsKey, showsCount, members⟩ := shows
  obtain ⟨key, keyRead, isKey⟩ := value_of_showsKey showsKey allowance
  obtain ⟨count, countRead, isCount, -⟩ := value_of_showsCount showsCount allowance
  obtain ⟨results, read, found, -⟩ := value_of_showsMembers members allowance (by
    intro member inShown
    rcases List.mem_pair.1 inShown with rfl | rfl
    · exact ⟨key, keyRead⟩
    · exact ⟨count, countRead⟩)
  have atKey := found "key" keyDocument key (by simp) keyRead
  have atCount := found "doc_count" countDocument count (by simp) countRead
  refine ⟨.object results, read, ?_⟩
  simp only [readBucket, Value.member?, atKey, atCount, Option.bind_some, isKey, isCount]

theorem readBuckets_of_showsBuckets {buckets : List Bucket} {documents : List Document}
    (shows : List.Forall₂ ShowsBucket buckets documents) (name : String) (allowance : Nat) :
    ∃ values, Decoder.value (allowance + 2) (.array documents) = some (.array values) ∧
      readBuckets name (.array values) = .ok (.terms buckets) := by
  have each : ∃ values,
      List.Forall₂ (fun document value => Decoder.value (allowance + 1) document = some value)
        documents values ∧
      List.Forall₂ (fun value bucket => readBucket name value = .ok bucket) values buckets := by
    induction shows with
    | nil => exact ⟨[], .nil, .nil⟩
    | cons first _ inductionHypothesis =>
        obtain ⟨value, read, isBucket⟩ := readBucket_of_showsBucket first name allowance
        obtain ⟨values, readRest, areBuckets⟩ := inductionHypothesis
        exact ⟨value :: values, .cons read readRest, .cons isBucket areBuckets⟩
  obtain ⟨values, read, areBuckets⟩ := each
  refine ⟨values, ?_, ?_⟩
  · rw [Decoder.value, Decoder.values_eq_some read]
    rfl
  · rw [readBuckets, (mapM_eq_ok_iff _ _ _).2 areBuckets]
    rfl

theorem readAggregation_of_showsTerms {buckets : List Bucket} {document : Document}
    (shows : ShowsTerms buckets document) (name : String) (allowance : Nat) :
    ∃ members, Decoder.value (allowance + 3) document = some (.object members) ∧
      readAggregation name (.object members) = .ok (.terms buckets) := by
  obtain ⟨documents, showsBuckets, showsMembers⟩ := shows
  obtain ⟨values, read, areBuckets⟩ := readBuckets_of_showsBuckets showsBuckets name allowance
  obtain ⟨members, readObject, found, -⟩ :=
    value_of_showsMembers showsMembers (allowance + 2) (by
      intro member inShown
      rw [List.mem_singleton.1 inShown]
      exact ⟨_, read⟩)
  refine ⟨members, readObject, ?_⟩
  have atBuckets := found "buckets" (.array documents) _ List.mem_cons_self read
  simp only [readAggregation, atBuckets, areBuckets]

/-- What is read inside an aggregation whose only object is an aggregation. -/
theorem readInnerAggregations_eq_ok {inner : String} {parts : List (String × Value)}
    {aggregation : RawAggregation}
    (read : readAggregation inner (.object parts) = .ok aggregation)
    {members : List (String × Value)}
    (single : ∀ member ∈ members, member.2.isObject = false ∨ member = (inner, .object parts)) :
    ∃ found, readInnerAggregations members = .ok found ∧
      (∀ entry ∈ found, entry = (inner, aggregation)) ∧
      ((inner, .object parts) ∈ members → found ≠ []) := by
  induction members with
  | nil => exact ⟨[], by rw [readInnerAggregations], by simp, by simp⟩
  | cons member rest inductionHypothesis =>
      obtain ⟨found, readRest, same, present⟩ :=
        inductionHypothesis fun other inRest => single other (List.mem_cons_of_mem _ inRest)
      rcases single member List.mem_cons_self with notObject | rfl
      · refine ⟨found, ?_, same, fun inMembers => present ?_⟩
        · obtain ⟨name, value⟩ := member
          cases value with
          | object parts => cases notObject
          | null => rw [readInnerAggregations, readRest]; nofun
          | boolean => rw [readInnerAggregations, readRest]; nofun
          | number => rw [readInnerAggregations, readRest]; nofun
          | string => rw [readInnerAggregations, readRest]; nofun
          | array => rw [readInnerAggregations, readRest]; nofun
        · rcases List.mem_cons.1 inMembers with rfl | inRest
          · cases notObject
          · exact inRest
      · refine ⟨(inner, aggregation) :: found, ?_, ?_, fun _ => List.cons_ne_nil _ _⟩
        · rw [readInnerAggregations, read, readRest]
          rfl
        · intro entry inFound
          rcases List.mem_cons.1 inFound with rfl | inRest
          · rfl
          · exact same entry inRest

theorem readAggregation_of_showsFilter {inner : String} {buckets : List Bucket}
    {document : Document} (shows : ShowsFilter inner buckets document)
    (notBuckets : inner ≠ "buckets") (name : String) (allowance : Nat) :
    ∃ value count found, Decoder.value (allowance + 4) document = some value ∧
      readAggregation name value = .ok (.filter count found) ∧
      found.find? (fun entry => entry.1 == inner) = some (inner, .terms buckets) := by
  obtain ⟨count, countDocument, termsDocument, showsCount, showsTerms, showsMembers⟩ := shows
  obtain ⟨countValue, countRead, isCount, countNotObject⟩ :=
    value_of_showsCount showsCount (allowance + 3)
  obtain ⟨parts, termsRead, isTerms⟩ := readAggregation_of_showsTerms showsTerms inner allowance
  obtain ⟨members, read, found, sources⟩ :=
    value_of_showsMembers showsMembers (allowance + 3) (by
      intro member inShown
      rcases List.mem_pair.1 inShown with rfl | rfl
      · exact ⟨countValue, countRead⟩
      · exact ⟨_, termsRead⟩)
  have atCount : Value.memberOf? "doc_count" members = some countValue :=
    found "doc_count" countDocument countValue (by simp) countRead
  have atInner : Value.memberOf? inner members = some (.object parts) :=
    found inner termsDocument (.object parts) (by simp) termsRead
  -- Otherwise the filter would be read as a list of buckets.
  have withoutBuckets : Value.memberOf? "buckets" members = none := by
    rw [Value.memberOf?_eq_none_iff]
    intro present
    obtain ⟨member, inMembers, isBuckets⟩ := List.mem_map.1 present
    rcases sources member inMembers with ⟨otherName, -⟩ | ⟨source, inShown, sameName, -⟩
    · exact otherName isBuckets
    · rcases List.mem_pair.1 inShown with rfl | rfl
      · have differ : "doc_count" ≠ "buckets" := by decide
        exact differ (sameName.symm.trans isBuckets)
      · exact notBuckets (sameName.symm.trans isBuckets)
  have single : ∀ member ∈ members,
      member.2.isObject = false ∨ member = (inner, .object parts) := by
    intro member inMembers
    rcases sources member inMembers with ⟨-, notObject⟩ | ⟨source, inShown, sameName, sourceRead⟩
    · exact .inl notObject
    · rcases List.mem_pair.1 inShown with rfl | rfl
      · rw [countRead] at sourceRead
        exact .inl (Option.some.inj sourceRead ▸ countNotObject)
      · rw [termsRead] at sourceRead
        exact .inr (Prod.ext sameName (Option.some.inj sourceRead).symm)
  obtain ⟨results, readInner, same, present⟩ := readInnerAggregations_eq_ok isTerms single
  refine ⟨.object members, count, results, read, ?_, ?_⟩
  · simp only [readAggregation, withoutBuckets, atCount, Option.bind_some, isCount, readInner]
    rfl
  · have notEmpty := present (Value.mem_of_memberOf?_eq_some atInner)
    cases results with
    | nil => exact absurd rfl notEmpty
    | cons first rest =>
        have isFirst := same first List.mem_cons_self
        subst isFirst
        exact List.find?_cons_of_pos (beq_self_eq_true inner)

/-- What is read from the answer to an aggregation. -/
inductive Reports : Value → List Bucket → RawAggregation → Prop where
  | terms {request : Value} {buckets : List Bucket} :
      Reports (.single "terms" request) buckets (.terms buckets)
  | filter {query request : Value} {inner : String} {buckets : List Bucket} {count : UInt64}
      {found : List (String × RawAggregation)}
      (holds : found.find? (fun entry => entry.1 == inner) = some (inner, .terms buckets)) :
      Reports (.object [("filter", query), ("aggs", .single inner request)]) buckets
        (.filter count found)

/-- No filter holds its buckets under the name that lists of buckets have. -/
def NamesBuckets (asked : List (String × Value)) : Prop :=
  ∀ name query inner request,
    (name, Value.object [("filter", query), ("aggs", .single inner request)]) ∈ asked →
      inner ≠ "buckets"

theorem readAggregation_of_shows {asked : List (String × Value)} (named : NamesBuckets asked)
    {name : String} {aggregation : Value} (isAsked : (name, aggregation) ∈ asked)
    {buckets : List Bucket} {document : Document}
    (shows : ShowsAggregation aggregation buckets document) (allowance : Nat) :
    ∃ value raw, Decoder.value (allowance + 4) document = some value ∧
      readAggregation name value = .ok raw ∧ Reports aggregation buckets raw := by
  cases shows with
  | terms showsTerms =>
      obtain ⟨members, read, isTerms⟩ :=
        readAggregation_of_showsTerms showsTerms name (allowance + 1)
      exact ⟨.object members, .terms buckets, read, isTerms, .terms⟩
  | filter showsFilter =>
      have notBuckets := named _ _ _ _ isAsked
      obtain ⟨value, count, found, read, isFilter, holds⟩ :=
        readAggregation_of_showsFilter showsFilter notBuckets name allowance
      exact ⟨value, .filter count found, read, isFilter, .filter holds⟩

theorem readAggregations_eq_ok (Means : String → RawAggregation → Prop)
    {entries : List (String × Value)}
    (readable : ∀ entry ∈ entries,
      ∃ raw, readAggregation entry.1 entry.2 = .ok raw ∧ Means entry.1 raw) :
    ∃ results, readAggregations entries = .ok results ∧
      results.map Prod.fst = entries.map Prod.fst ∧
      ∀ result ∈ results, Means result.1 result.2 := by
  induction entries with
  | nil => exact ⟨[], rfl, rfl, by simp⟩
  | cons entry rest inductionHypothesis =>
      obtain ⟨raw, read, means⟩ := readable entry List.mem_cons_self
      obtain ⟨results, readRest, names, meansRest⟩ :=
        inductionHypothesis fun other inRest => readable other (List.mem_cons_of_mem _ inRest)
      refine ⟨(entry.1, raw) :: results, ?_, ?_, ?_⟩
      · rw [readAggregations, read, readRest]
        rfl
      · rw [List.map_cons, List.map_cons, names]
      · intro result inResults
        rcases List.mem_cons.1 inResults with rfl | inRest
        · exact means
        · exact meansRest result inRest

/-! ## Answers -/

/-- The fields of an answer. -/
def answerFields : FieldTable :=
  [("hits", .refused), ("aggregations", .allowed)]

/-- The fields of an answer are read wherever they stand among its members. -/
theorem answer_ofMembers {members : List (String × Document)}
    (distinct : (members.map Prod.fst).Nodup) {hits : Document} {found : HitList}
    (hitsMember : ("hits", hits) ∈ members)
    (hitsRead : hitList (nestingAllowance - 1) hits = some found)
    {answers : List (String × Document)} {values : List (String × Value)}
    (answersRead : Decoder.map Decoder.value (nestingAllowance - 1) (.ofMembers answers) =
      some values)
    (answersMember : ("aggregations", Document.ofMembers answers) ∈ members ∨
      (values = [] ∧ "aggregations" ∉ members.map Prod.fst)) :
    answer nestingAllowance (.ofMembers members) = some (found, values) := by
  have whole : nestingAllowance = (nestingAllowance - 1) + 1 := rfl
  have complete : ∀ field ∈ answerFields, field.2 = .refused → field.1 ∈ members.map Prod.fst := by
    intro field inTable mayNotMiss
    rcases List.mem_pair.1 inTable with rfl | rfl
    · exact List.mem_map_of_mem hitsMember
    · cases mayNotMiss
  have record := answerFields.read?_ofMembers (nestingAllowance - 1) distinct complete
  have atHits :=
    Record.field?_eq_some answerFields distinct (nestingAllowance - 1) (by decide) hitsMember
  unfold answer
  rw [whole]
  dsimp only
  rw [← answerFields, record]
  simp only [Option.bind_eq_bind, Option.bind_some, Record.required?, Record.defaulted?, atHits,
    hitsRead]
  rcases answersMember with present | ⟨rfl, absent⟩
  · have atAggregations :=
      Record.field?_eq_some answerFields distinct (nestingAllowance - 1) (by decide) present
    rw [atAggregations]
    simp only [answersRead, Option.bind_some]
    rfl
  · rw [Record.field?_eq_none _ _ absent]
    rfl

/-- The member with the answers is read value by value, each of them a report. -/
theorem map_value_of_answers {asked : List (String × Value)} (named : NamesBuckets asked)
    {bucketsOf : String → List Bucket} {answers : List (String × Document)}
    (shows : AnswersAggregations asked bucketsOf answers) :
    ∃ values, Decoder.map Decoder.value (nestingAllowance - 1) (.ofMembers answers) =
        some values ∧
      (values.map Prod.fst).Perm (answers.map Prod.fst) ∧
      ∀ entry ∈ values, ∃ raw, readAggregation entry.1 entry.2 = .ok raw ∧
        ∃ aggregation, (entry.1, aggregation) ∈ asked ∧
          Reports aggregation (bucketsOf entry.1) raw := by
  -- An aggregation takes at most four levels of nesting, inside the two of answer and member.
  have whole : nestingAllowance - 1 = (nestingAllowance - 6 + 4) + 1 := rfl
  have reported : ∀ member ∈ answers, ∃ value raw,
      Decoder.value (nestingAllowance - 6 + 4) member.2 = some value ∧
        readAggregation member.1 value = .ok raw ∧
        ∃ aggregation, (member.1, aggregation) ∈ asked ∧
          Reports aggregation (bucketsOf member.1) raw := by
    intro member inAnswers
    obtain ⟨aggregation, isAsked, showsOne⟩ := shows.shows member inAnswers
    obtain ⟨value, raw, read, isRaw, reports⟩ :=
      readAggregation_of_shows named isAsked showsOne (nestingAllowance - 6)
    exact ⟨value, raw, read, isRaw, aggregation, isAsked, reports⟩
  have readable : ∀ member ∈ answers, ∃ value,
      Decoder.value (nestingAllowance - 6 + 4) member.2 = some value := by
    intro member inAnswers
    obtain ⟨value, -, read, -⟩ := reported member inAnswers
    exact ⟨value, read⟩
  obtain ⟨values, answersRead, names, sources⟩ := Decoder.map_ofMembers shows.distinct readable
  refine ⟨values, whole ▸ answersRead, names, ?_⟩
  intro entry inValues
  obtain ⟨member, inAnswers, sameName, sameValue⟩ := sources entry inValues
  obtain ⟨value, raw, read, reports⟩ := reported member inAnswers
  rw [read] at sameValue
  cases sameValue
  rw [sameName]
  exact ⟨raw, reports⟩

/-- An answer to a body is read as a report on each aggregation under its name. -/
theorem readSearch_of_answers {body : Value} {bucketsOf : String → List Bucket}
    {text : String} {document : Document} (written : Document.read? text = some document)
    (named : NamesBuckets (askedAggregations body)) (shows : Answers body bucketsOf document) :
    ∃ raw, readSearch text = .ok raw ∧ (raw.aggregations.map Prod.fst).Nodup ∧
      (∀ name, name ∈ raw.aggregations.map Prod.fst ↔
        name ∈ (askedAggregations body).map Prod.fst) ∧
      ∀ entry ∈ raw.aggregations, ∃ aggregation,
        (entry.1, aggregation) ∈ askedAggregations body ∧
          Reports aggregation (bucketsOf entry.1) entry.2 := by
  obtain ⟨members, answers, hits, found, rfl, distinct, hitsMember, hitsRead, aggregations,
    answersMember⟩ := shows
  obtain ⟨values, answersRead, names, reported⟩ := map_value_of_answers named aggregations
  have present : ("aggregations", Document.ofMembers answers) ∈ members ∨
      (values = [] ∧ "aggregations" ∉ members.map Prod.fst) := by
    refine answersMember.imp_right ?_
    rintro ⟨rfl, absent⟩
    have noNames : values.map Prod.fst = [] := List.perm_nil.1 names
    exact ⟨List.map_eq_nil_iff.1 noNames, absent⟩
  have answerRead := answer_ofMembers distinct hitsMember hitsRead answersRead present
  obtain ⟨results, resultsRead, resultNames, means⟩ := readAggregations_eq_ok
    (fun name raw => ∃ aggregation, (name, aggregation) ∈ askedAggregations body ∧
      Reports aggregation (bucketsOf name) raw) reported
  have allNames : (results.map Prod.fst).Perm (answers.map Prod.fst) := resultNames ▸ names
  refine ⟨⟨found.total.getD found.hits.length.toUInt64, found.hits, results, none⟩, ?_, ?_, ?_,
    means⟩
  · rw [readSearch, decode?, written, Option.bind_some, answerRead]
    simp only [resultOf, resultsRead]
    rfl
  · exact allNames.nodup_iff.2 aggregations.distinct
  · intro name
    rw [allNames.mem_iff]
    exact aggregations.mem_names_iff name

end FacetedSearch.Elasticsearch
