import DocSearch.Proofs.Aggregation.Decoding
import DocSearch.Proofs.Json
import Mathlib.Data.List.Dedup

namespace DocSearch

/-! A cluster that answers aggregations sees nothing of them but the compiled request. How it
groups documents and what its metrics are worth is its own affair; that an answer has a level for
each level of the request, under the same name, is what the reader relies on. -/

/-- Documents of one key, with their number as the cluster reports it. -/
structure Group (δ : Type) where
  key : Json
  count : Nat
  documents : δ

/-- A bucket holds key and count of its group, beside the answer to what is nested in its level. -/
structure Group.IsBucket (group : Group δ) (nested bucket : Json) : Prop where
  key : bucket.get? "key" = some group.key
  count : bucket.get? "doc_count" = some (.ofNat group.count)
  others : ∀ name, name ≠ "key" → name ≠ "doc_count" → bucket.get? name = nested.get? name

/-- The result for a group: what is inside it, or its count if that has no groups. -/
def Group.entry (group : Group δ) : AggregationResult → AggregationResult
  | .buckets [] => .count group.count
  | inside => inside

/-- What a cluster decides by itself: groups and metrics of documents, by field. -/
structure Grouping (δ : Type) where
  groups : (field : String) → (maxBuckets : Nat) → δ → List (Group δ)
  sum : (field : String) → δ → Json
  cardinality : (field : String) → δ → Json
  distinct : ∀ field maxBuckets documents,
    ((groups field maxBuckets documents).map fun group => group.key.keyText).Nodup

/-- A cluster answers a request over documents member by member. -/
structure Engine (δ : Type) extends Grouping δ where
  respond : (request : Json) → δ → Json
  absent : ∀ {request name} documents, request.get? name = none →
    (respond request documents).get? name = none
  terms : ∀ {request name nested field maxBuckets} documents,
    request.get? name = some (.obj [("aggs", nested),
      ("terms", .obj [("field", .str field), ("size", .ofNat maxBuckets)])]) →
    ∃ buckets, (respond request documents).get? name = some (.obj [("buckets", .arr buckets)]) ∧
      List.Forall₂ (fun group bucket => group.IsBucket (respond nested group.documents) bucket)
        (groups field maxBuckets documents) buckets
  summed : ∀ {request name field} documents,
    request.get? name = some (.obj [("sum", .obj [("field", .str field)])]) →
    (respond request documents).get? name = some (.obj [("value", sum field documents)])
  counted : ∀ {request name field} documents,
    request.get? name = some (.obj [("cardinality", .obj [("field", .str field)])]) →
    (respond request documents).get? name = some (.obj [("value", cardinality field documents)])

namespace Grouping

/-- Documents grouped by the text of a field, and metrics that count and add. -/
def byText : Grouping (List Json) where
  groups field maxBuckets documents :=
    (((documents.filterMap (·.get? field)).map Json.keyText).dedup.take maxBuckets).map fun text =>
      let members := documents.filter fun document =>
        (document.get? field).map Json.keyText == some text
      { key := .str text, count := members.length, documents := members }
  sum field documents :=
    .ofNat ((documents.filterMap fun document => (document.get? field).bind Json.nat?).foldl
      (· + ·) 0)
  cardinality field documents :=
    .ofNat ((documents.filterMap (·.get? field)).map Json.keyText).dedup.length
  distinct field maxBuckets documents := by
    rw [List.map_map]
    refine List.Nodup.map_on ?_ ((List.nodup_dedup _).sublist (List.take_sublist _ _))
    intro first _ second _ same
    exact same

variable {δ : Type}

/-- The value of an aggregation over documents, without any request. -/
def evaluate (grouping : Grouping δ) : Aggregation → δ → AggregationResult
  | .sum field, documents => .metric (grouping.sum field documents)
  | .cardinality field, documents => .metric (grouping.cardinality field documents)
  | .terms field maxBuckets none, documents =>
      .buckets ((grouping.groups field maxBuckets documents).map fun group =>
        (group.key.keyText, .count group.count))
  | .terms field maxBuckets (some child), documents =>
      .buckets ((grouping.groups field maxBuckets documents).map fun group =>
        (group.key.keyText, group.entry (grouping.evaluate child group.documents)))

mutual
/-- The members of the answer to a request. -/
def answer (grouping : Grouping δ) : Json → δ → List (String × Json)
  | .obj members, documents => grouping.answerMembers members documents
  | _, _ => []

def answerMembers (grouping : Grouping δ) : List (String × Json) → δ → List (String × Json)
  | [], _ => []
  | (name, body) :: rest, documents =>
      (name, grouping.answerBody body documents) :: grouping.answerMembers rest documents

def answerBody (grouping : Grouping δ) : Json → δ → Json
  | .obj [("aggs", nested), ("terms", .obj [("field", .str field), ("size", .num (.int size))])],
      documents =>
      .obj [("buckets", .arr ((grouping.groups field size.toNat documents).map fun group =>
        .obj (("doc_count", .ofNat group.count) :: ("key", group.key) ::
          grouping.answer nested group.documents)))]
  | .obj [("sum", .obj [("field", .str field)])], documents =>
      .obj [("value", grouping.sum field documents)]
  | .obj [("cardinality", .obj [("field", .str field)])], documents =>
      .obj [("value", grouping.cardinality field documents)]
  | _, _ => .null
end

theorem lookup_answerMembers (grouping : Grouping δ) (members : List (String × Json))
    (documents : δ) (name : String) :
    (grouping.answerMembers members documents).lookup name =
      (members.lookup name).map fun body => grouping.answerBody body documents := by
  induction members with
  | nil => simp [answerMembers]
  | cons member rest ih =>
      obtain ⟨k, body⟩ := member
      simp only [answerMembers, List.lookup_cons, ih]
      cases name == k <;> rfl

theorem get?_answer (grouping : Grouping δ) (request : Json) (documents : δ) (name : String) :
    (Json.obj (grouping.answer request documents)).get? name =
      (request.get? name).map fun body => grouping.answerBody body documents := by
  cases request with
  | obj members => simpa only [answer, Json.get?] using lookup_answerMembers ..
  | _ => simp [answer, Json.get?]

theorem answerBody_terms (grouping : Grouping δ) (nested : Json) (field : String)
    (maxBuckets : Nat) (documents : δ) :
    grouping.answerBody (.obj [("aggs", nested),
        ("terms", .obj [("field", .str field), ("size", .ofNat maxBuckets)])]) documents =
      .obj [("buckets", .arr ((grouping.groups field maxBuckets documents).map fun group =>
        .obj (("doc_count", .ofNat group.count) :: ("key", group.key) ::
          grouping.answer nested group.documents)))] := by
  simp only [Json.ofNat, answerBody, Int.toNat_natCast]

end Grouping

/-- Any groups and metrics are those of an engine. -/
def Engine.ofGrouping (grouping : Grouping δ) : Engine δ where
  toGrouping := grouping
  respond request documents := .obj (grouping.answer request documents)
  absent documents missing := by rw [grouping.get?_answer, missing, Option.map_none]
  terms documents found := by
    rw [grouping.get?_answer, found, Option.map_some, Grouping.answerBody_terms]
    refine ⟨_, rfl, ?_⟩
    rw [List.forall₂_map_right_iff, List.forall₂_same]
    intro group _
    refine ⟨rfl, rfl, fun name notKey notCount => ?_⟩
    rw [Json.get?_obj_of_ne notCount, Json.get?_obj_of_ne notKey]
  summed documents found := by
    rw [grouping.get?_answer, found, Option.map_some, Grouping.answerBody]
  counted documents found := by
    rw [grouping.get?_answer, found, Option.map_some, Grouping.answerBody]

theorem Group.orCount_some (group : Group δ) (inside : AggregationResult) :
    AggregationResult.orCount group.count (some inside) = group.entry inside := by
  cases inside with
  | buckets entries => cases entries <;> rfl
  | _ => rfl

namespace Engine

variable {δ : Type}

/-- A bucket is read as its group says, whatever is read inside it. -/
theorem readsBucket_of_isBucket {group : Group δ} {nested bucket : Json} {depth : Nat}
    {inner : Option AggregationResult} (holds : group.IsBucket nested bucket)
    (decoded : AggregationResult.decode nested (depth + 1) = .ok inner) :
    AggregationResult.ReadsBucket depth bucket
      (group.key.keyText, AggregationResult.orCount group.count inner) where
  key := bucketKey?_of_key holds.key
  entry := by
    refine ⟨group.count, inner, ?_, ?_, rfl⟩
    · rw [holds.count]
      simp [Json.ofNat, Json.nat?]
    · have same := holds.others _ (toString_ne_key (depth + 1)) (toString_ne_doc_count (depth + 1))
      rw [AggregationResult.decode_congr same, decoded]

/-- Reading the level of a terms request gives an entry for each group, if what is nested can be
read for each of them. -/
theorem decode_terms (engine : Engine δ) {response nested : Json} {field : String}
    {maxBuckets depth : Nat} {documents : δ} {inner : Group δ → Option AggregationResult}
    (answered : response.get? (toString depth) =
      (engine.respond (.obj [(toString depth, .obj [("aggs", nested),
        ("terms", .obj [("field", .str field), ("size", .ofNat maxBuckets)])])])
        documents).get? (toString depth))
    (decoded : ∀ group, AggregationResult.decode (engine.respond nested group.documents)
      (depth + 1) = .ok (inner group)) :
    AggregationResult.decode response depth =
      .ok (some (.buckets ((engine.groups field maxBuckets documents).map fun group =>
        (group.key.keyText, AggregationResult.orCount group.count (inner group))))) := by
  obtain ⟨elements, found, each⟩ := engine.terms documents
    (Json.get?_obj_self : (Json.obj [(toString depth, _)]).get? _ = _)
  refine AggregationResult.decode_buckets (answered.trans found) Json.get?_obj_self ?_ ?_
  · rw [List.forall₂_map_right_iff]
    exact each.flip.imp fun bucket group holds => readsBucket_of_isBucket holds (decoded group)
  · rw [Keyed.keys, List.map_map]
    exact engine.distinct field maxBuckets documents

/-- The induction speaks of any response that agrees with the engine at the depth in question,
because a bucket holds more than the answer that is nested in it. -/
theorem decode_of_answered (engine : Engine δ) (aggregation : Aggregation) (depth : Nat)
    (documents : δ) {response : Json}
    (answered : response.get? (toString depth) =
      (engine.respond (aggregation.compile depth) documents).get? (toString depth)) :
    AggregationResult.decode response depth =
      .ok (some (engine.evaluate aggregation documents)) := by
  induction depth, aggregation using Aggregation.compile.induct
    generalizing documents response with
  | case1 depth field maxBuckets =>
      have nothing : ∀ group : Group δ, AggregationResult.decode
          (engine.respond (.obj []) group.documents) (depth + 1) = .ok none := fun group =>
        AggregationResult.decode_absent (engine.absent group.documents rfl)
      rw [Aggregation.compile] at answered
      rw [engine.decode_terms answered nothing]
      rfl
  | case2 depth field maxBuckets child ih =>
      have inside : ∀ group : Group δ, AggregationResult.decode
          (engine.respond (child.compile (depth + 1)) group.documents) (depth + 1) =
          .ok (some (engine.evaluate child group.documents)) := fun group => ih group.documents rfl
      rw [Aggregation.compile] at answered
      rw [engine.decode_terms answered inside]
      simp only [Grouping.evaluate, Group.orCount_some]
  | case3 depth field =>
      rw [Aggregation.compile, engine.summed documents Json.get?_obj_self] at answered
      rw [AggregationResult.decode_value answered rfl Json.get?_obj_self, Grouping.evaluate]
  | case4 depth field =>
      rw [Aggregation.compile, engine.counted documents Json.get?_obj_self] at answered
      rw [AggregationResult.decode_value answered rfl Json.get?_obj_self, Grouping.evaluate]

/-- Compiling an aggregation, having it answered and reading the answer is evaluating it. -/
theorem decode_respond_compile (engine : Engine δ) (aggregation : Aggregation) (depth : Nat)
    (documents : δ) :
    AggregationResult.decode (engine.respond (aggregation.compile depth) documents) depth =
      .ok (some (engine.evaluate aggregation documents)) :=
  engine.decode_of_answered aggregation depth documents rfl

/-- Two levels over three requests to a web server, one of which has no path. -/
theorem decode_respond_compile_byText :
    let documents : List Json := [
      .obj [("path", .str "/a"), ("status", .ofNat 200)],
      .obj [("status", .ofNat 500)],
      .obj [("path", .str "/b"), ("status", .ofNat 200)]]
    let aggregation := Aggregation.terms "status" 10 (some (.terms "path" 10 none))
    AggregationResult.decode
        ((ofGrouping .byText).respond (aggregation.compile 1) documents) 1 =
      .ok (some (.buckets [
        ("500", .count 1),
        ("200", .buckets [("/a", .count 1), ("/b", .count 1)])])) :=
  decode_respond_compile (ofGrouping .byText) _ 1 _

end Engine

end DocSearch
