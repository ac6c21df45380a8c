import DocSearch.Proofs.Aggregation.Depth
import DocSearch.Proofs.Aggregation.Keyed
import Mathlib.Logic.Relation

namespace DocSearch.AggregationResult

/-! What the reading of a response returns. Buckets are filed in the order in which their keys
first come, and the last bucket of a key decides what is filed under it. -/

variable {response level bucket : Json} {depth : Nat} {elements : List Json}
  {pairs entries : List (String × AggregationResult)} {entry result : AggregationResult}

/-- What is filed for a bucket: the result inside it, or else the number of its documents. -/
inductive EntryOf (depth : Nat) (bucket : Json) : AggregationResult → Prop where
  | inside {inner : AggregationResult} : decode bucket (depth + 1) = .ok (some inner) →
      inner ≠ .buckets [] → EntryOf depth bucket inner
  | counted {documents : Nat} :
      (decode bucket (depth + 1) = .ok none ∨ decode bucket (depth + 1) = .ok (some (.buckets []))) →
      (bucket.get? "doc_count").bind Json.nat? = some documents →
      EntryOf depth bucket (.count documents)

/-- An entry is that of a bucket, under its key. -/
def Files (depth : Nat) (bucket : Json) (entry : String × AggregationResult) : Prop :=
  bucketKey? bucket = some entry.1 ∧ EntryOf depth bucket entry.2

/-- What is filed for a list of buckets. -/
structure Filed (depth : Nat) (elements : List Json)
    (entries : List (String × AggregationResult)) : Prop where
  order : Keyed.keys entries = (elements.filterMap bucketKey?).eraseDups
  last : ∀ entry ∈ entries, ∃ before bucket after, elements = before ++ bucket :: after ∧
    Files depth bucket entry ∧ ∀ later ∈ after, bucketKey? later ≠ some entry.1
  lossless : List.Forall₂ (Files depth) elements entries ↔
    (elements.filterMap bucketKey?).Nodup

/-- One result is filed directly in the other. -/
def IsEntry (inner outer : AggregationResult) : Prop :=
  ∃ key entries, outer = buckets entries ∧ (key, inner) ∈ entries

/-- The responses hold the same under the name of the depth, at the places that are read. -/
inductive SameLevels : Nat → Json → Json → Prop where
  | absent {depth : Nat} {left right : Json} : left.get? (toString depth) = none →
      right.get? (toString depth) = none → SameLevels depth left right
  | metric {depth : Nat} {left right leftLevel rightLevel : Json} :
      left.get? (toString depth) = some leftLevel →
      right.get? (toString depth) = some rightLevel →
      leftLevel.get? "buckets" = none → rightLevel.get? "buckets" = none →
      leftLevel.get? "value" = rightLevel.get? "value" → SameLevels depth left right
  | buckets {depth : Nat} {left right leftLevel rightLevel : Json}
      {leftElements rightElements : List Json} :
      left.get? (toString depth) = some leftLevel →
      right.get? (toString depth) = some rightLevel →
      leftLevel.get? "buckets" = some (.arr leftElements) →
      rightLevel.get? "buckets" = some (.arr rightElements) →
      leftElements.length = rightElements.length →
      (∀ pair ∈ leftElements.zip rightElements,
        pair.1.get? "key" = pair.2.get? "key" ∧
        pair.1.get? "doc_count" = pair.2.get? "doc_count") →
      (∀ pair ∈ leftElements.zip rightElements, SameLevels (depth + 1) pair.1 pair.2) →
      SameLevels depth left right

theorem decodeBuckets_ok_iff :
    decodeBuckets depth elements = .ok pairs ↔
      List.Forall₂ (ReadsBucket depth) elements pairs := by
  refine ⟨fun read => ?_, decodeBuckets_ok⟩
  induction elements generalizing pairs with
  | nil =>
      rw [decodeBuckets] at read
      exact Except.ok.inj read ▸ .nil
  | cons bucket rest ih =>
      rw [decodeBuckets] at read
      cases named : bucketKey? bucket with
      | none => simp [named] at read
      | some key =>
          cases counted : (bucket.get? "doc_count").bind Json.nat? with
          | none => simp [named, counted] at read
          | some documents =>
              cases decoded : decode bucket (depth + 1) with
              | error defect => simp [named, counted, decoded] at read
              | ok inner =>
                  cases tail : decodeBuckets depth rest with
                  | error defect => simp [named, counted, decoded, tail] at read
                  | ok others =>
                      simp only [named, counted, decoded, tail, Except.ok.injEq] at read
                      exact read ▸ .cons ⟨named, documents, inner, counted, decoded, rfl⟩ (ih tail)

theorem map_eq_ok_iff {ε α β : Type} {x : Except ε α} {f : α → β} {b : β} :
    x.map f = .ok b ↔ ∃ a, x = .ok a ∧ f a = b := by
  cases x <;> simp [Except.map]

/-- A level is read as buckets or as a metric; buckets count before a value. -/
theorem readLevel_ok_iff :
    readLevel depth level = .ok result ↔
      (∃ elements pairs, level.get? "buckets" = some (.arr elements) ∧
        List.Forall₂ (ReadsBucket depth) elements pairs ∧ result = buckets (Keyed.ofList pairs)) ∨
      level.get? "buckets" = none ∧ ∃ value, level.get? "value" = some value ∧
        result = metric value := by
  unfold readLevel
  cases listed : level.get? "buckets" with
  | none =>
      cases level.get? "value" with
      | none => simp
      | some value => simp [eq_comm]
  | some value =>
      cases value with
      | arr elements => simp [map_eq_ok_iff, decodeBuckets_ok_iff, @eq_comm _ result]
      | _ => simp

theorem decode_none_iff :
    decode response depth = .ok none ↔ response.get? (toString depth) = none := by
  rw [decode_eq]
  cases found : response.get? (toString depth) with
  | none => exact iff_of_true rfl rfl
  | some level => simp [map_eq_ok_iff]

theorem decode_some_iff :
    decode response depth = .ok (some result) ↔
      ∃ level, response.get? (toString depth) = some level ∧ readLevel depth level = .ok result := by
  rw [decode_eq]
  cases found : response.get? (toString depth) with
  | none => exact ⟨nofun, nofun⟩
  | some level => simp [map_eq_ok_iff]

theorem files_of_reads {pair : String × AggregationResult} (reads : ReadsBucket depth bucket pair) :
    Files depth bucket pair := by
  obtain ⟨named, documents, inner, counted, decoded, same⟩ := reads
  refine ⟨named, same ▸ ?_⟩
  cases inner with
  | none => exact .counted (.inl decoded) counted
  | some inner =>
      cases inner with
      | metric value => exact .inside decoded nofun
      | count number => exact .inside decoded nofun
      | buckets entries =>
          cases entries with
          | nil => exact .counted (.inr decoded) counted
          | cons first rest => exact .inside decoded nofun

theorem keys_of_files (filed : List.Forall₂ (Files depth) elements entries) :
    Keyed.keys entries = elements.filterMap bucketKey? := by
  induction filed with
  | nil => rfl
  | cons first _ ih =>
      rw [List.filterMap_cons, first.1, ← ih]
      rfl

theorem filed_of_reads (each : List.Forall₂ (ReadsBucket depth) elements pairs) :
    Filed depth elements (Keyed.ofList pairs) where
  order := by rw [Keyed.keys_ofList, keys_of_files (each.imp fun _ _ => files_of_reads)]
  last := by
    rintro ⟨key, entry⟩ member
    obtain ⟨before, after, rfl, final⟩ := Keyed.last_of_mem_ofList member
    have rest := List.forall₂_drop_append _ _ _ each
    obtain ⟨bucket, later, reads, others, split⟩ := List.forall₂_cons_right_iff.mp rest
    refine ⟨elements.take before.length, bucket, later, ?_, files_of_reads reads, ?_⟩
    · rw [← split, List.take_append_drop]
    · intro other listed same
      rw [keys_of_files (others.imp fun _ _ => files_of_reads)] at final
      exact final (List.mem_filterMap.mpr ⟨other, listed, same⟩)
  lossless := by
    have filed := each.imp fun _ _ => files_of_reads
    constructor
    · intro lossless
      exact keys_of_files lossless ▸ Keyed.nodup_keys_ofList pairs
    · intro distinct
      rwa [Keyed.ofList_of_nodup (keys_of_files filed ▸ distinct)]

/-- An entry of a level is a count, or it was read inside a bucket and is not empty. -/
theorem entry_of_decoded {inner : AggregationResult}
    (decoded : decode response depth = .ok (some result)) (isEntry : IsEntry inner result) :
    inner ≠ .buckets [] ∧ ((∃ documents, inner = .count documents) ∨
      ∃ bucket, decode bucket (depth + 1) = .ok (some inner)) := by
  obtain ⟨key, entries, rfl, member⟩ := isEntry
  obtain ⟨level, -, read⟩ := decode_some_iff.mp decoded
  obtain ⟨elements, pairs, -, each, same⟩ | ⟨-, value, -, same⟩ := readLevel_ok_iff.mp read
  · obtain rfl := buckets.inj same
    obtain ⟨_, bucket, _, -, ⟨-, entry⟩, -⟩ := (filed_of_reads each).last _ member
    cases entry with
    | inside found full => exact ⟨full, .inr ⟨bucket, found⟩⟩
    | counted => exact ⟨nofun, .inl ⟨_, rfl⟩⟩
  · exact nomatch same

/-- What is below a result stands directly in it, or in something below it that was read too. -/
theorem below_of_decoded {inner : AggregationResult}
    (decoded : decode response depth = .ok (some result))
    (below : Relation.TransGen IsEntry inner result) :
    inner ≠ .buckets [] ∧ ((∃ documents, inner = .count documents) ∨
      ∃ bucket depth, decode bucket depth = .ok (some inner)) := by
  induction below using Relation.TransGen.head_induction_on with
  | single isEntry =>
      obtain ⟨full, counted | ⟨bucket, found⟩⟩ := entry_of_decoded decoded isEntry
      · exact ⟨full, .inl counted⟩
      · exact ⟨full, .inr ⟨bucket, _, found⟩⟩
  | head isEntry _ ih =>
      obtain ⟨-, ⟨documents, rfl⟩ | ⟨outer, _, read⟩⟩ := ih
      · obtain ⟨_, _, same, -⟩ := isEntry
        exact nomatch same
      · obtain ⟨full, counted | ⟨bucket, found⟩⟩ := entry_of_decoded read isEntry
        · exact ⟨full, .inl counted⟩
        · exact ⟨full, .inr ⟨bucket, _, found⟩⟩

theorem readsBucket_congr {left right : Json} {pair : String × AggregationResult}
    (key : left.get? "key" = right.get? "key")
    (count : left.get? "doc_count" = right.get? "doc_count")
    (inside : ∀ read, decode left (depth + 1) = .ok read ↔ decode right (depth + 1) = .ok read) :
    ReadsBucket depth left pair ↔ ReadsBucket depth right pair := by
  have named : bucketKey? left = bucketKey? right := by rw [bucketKey?, bucketKey?, key]
  constructor
  · rintro ⟨key, documents, inner, counted, decoded, same⟩
    exact ⟨named ▸ key, documents, inner, count ▸ counted, (inside inner).mp decoded, same⟩
  · rintro ⟨key, documents, inner, counted, decoded, same⟩
    exact ⟨named ▸ key, documents, inner, count ▸ counted, (inside inner).mpr decoded, same⟩

theorem forall₂_readsBucket_congr {left right : List Json} (length : left.length = right.length)
    (each : ∀ pair ∈ left.zip right, ∀ read,
      ReadsBucket depth pair.1 read ↔ ReadsBucket depth pair.2 read) :
    List.Forall₂ (ReadsBucket depth) left pairs ↔
      List.Forall₂ (ReadsBucket depth) right pairs := by
  have alike : List.Forall₂ (fun left right => ∀ read, ReadsBucket depth left read ↔
      ReadsBucket depth right read) left right :=
    List.forall₂_iff_zip.mpr ⟨length, fun member => each _ member⟩
  clear each length
  induction alike generalizing pairs with
  | nil => rfl
  | cons first _ ih => cases pairs <;> simp [first, ih]

theorem SameLevels.decode_ok_iff {left right : Json} (same : SameLevels depth left right)
    (read : Option AggregationResult) :
    decode left depth = .ok read ↔ decode right depth = .ok read := by
  induction same generalizing read with
  | absent left right => rw [decode_absent left, decode_absent right]
  | metric left right leftBare rightBare value =>
      simp only [decode_eq, left, right, readLevel, leftBare, rightBare, value]
      rename_i rightLevel
      cases rightLevel.get? "value" with
      | none => exact ⟨nofun, nofun⟩
      | some value => rfl
  | @buckets depth _ _ _ _ leftElements rightElements left right leftListed rightListed length
      named inside ih =>
      have alike : ∀ pairs, decodeBuckets depth leftElements = .ok pairs ↔
          decodeBuckets depth rightElements = .ok pairs := fun pairs => by
        rw [decodeBuckets_ok_iff, decodeBuckets_ok_iff]
        exact forall₂_readsBucket_congr length fun pair member reads =>
          readsBucket_congr (named pair member).1 (named pair member).2 (ih pair member)
      simp only [decode_eq, left, right, readLevel, leftListed, rightListed, map_eq_ok_iff, alike]

theorem get?_none_iff {name : String} :
    response.get? name = none ↔
      ∀ members, response = .obj members → name ∉ members.map Prod.fst := by
  cases response with
  | obj members =>
      simp only [Json.get?, List.lookup_eq_none_iff, bne_iff_ne, Json.obj.injEq, forall_eq',
        List.mem_map, not_exists, not_and]
      exact forall₂_congr fun member _ => ne_comm
  | _ => simp [Json.get?]

/-- What a successful reading returns. There is a result where the response has the level. Buckets
are filed by key, whatever value stands beside them; a value alone is returned as it is. A bucket
inside which nothing is found is counted, so that no result but the first can be empty, and the
first is never a count. Nothing else in a response matters. -/
theorem decode_returns (response : Json) (depth : Nat) :
    (decode response depth = .ok none ↔
      ∀ members, response = .obj members → toString depth ∉ members.map Prod.fst) ∧
    (∀ result, decode response depth = .ok (some result) →
      (∃ level, response.get? (toString depth) = some level ∧
        ((∃ elements entries, level.get? "buckets" = some (.arr elements) ∧
            result = .buckets entries ∧ Filed depth elements entries) ∨
          level.get? "buckets" = none ∧ ∃ value, level.get? "value" = some value ∧
            result = .metric value)) ∧
      (∀ documents, result ≠ .count documents) ∧
      ∀ inner, Relation.TransGen IsEntry inner result → inner ≠ .buckets []) ∧
    ∀ other, SameLevels depth response other →
      ∀ read, decode response depth = .ok read ↔ decode other depth = .ok read := by
  refine ⟨decode_none_iff.trans get?_none_iff, fun result decoded => ⟨?_, ?_, ?_⟩,
    fun other same => same.decode_ok_iff⟩
  · obtain ⟨level, found, read⟩ := decode_some_iff.mp decoded
    refine ⟨level, found, (readLevel_ok_iff.mp read).imp_left ?_⟩
    rintro ⟨elements, pairs, listed, each, rfl⟩
    exact ⟨elements, _, listed, rfl, filed_of_reads each⟩
  · rintro documents rfl
    obtain ⟨level, -, read⟩ := decode_some_iff.mp decoded
    obtain ⟨_, _, -, -, same⟩ | ⟨-, _, -, same⟩ := readLevel_ok_iff.mp read
    · exact nomatch same
    · exact nomatch same
  · exact fun inner below => (below_of_decoded decoded below).1

/-- A text and a number are one key, and the later of their buckets counts. What is beside the
buckets of the other response makes no difference. -/
theorem decode_returns_colliding :
    let elements : List Json := [
      .obj [("doc_count", .ofNat 2), ("key", .str "404"), ("2", .obj [("value", .ofNat 9)])],
      .obj [("doc_count", .ofNat 1), ("key", .ofNat 200), ("2", .obj [("value", .null)])],
      .obj [("doc_count", .ofNat 3), ("key", .ofNat 404), ("2", .obj [("buckets", .arr [])])]]
    let response : Json := .obj [("1", .obj [("buckets", .arr elements), ("value", .ofNat 5)])]
    let other : Json := .obj [("1", .obj [("buckets", .arr elements), ("sum", .ofNat 6)]),
      ("took", .ofNat 1)]
    let result := buckets [("404", .count 3), ("200", .metric .null)]
    decode response 1 = .ok (some result) ∧
      (∃ entries, result = .buckets entries ∧ Filed 1 elements entries) ∧
      (∀ inner, Relation.TransGen IsEntry inner result → inner ≠ .buckets []) ∧
      SameLevels 1 response other ∧ decode other 1 = .ok (some result) := by
  intro elements response other result
  have decoded : decode response 1 = .ok (some result) := by
    have nests : NestsWithin 1 response 1 := by
      show ∀ bucket ∈ elements, bucketsAt bucket 2 = []
      simp only [elements, List.forall_mem_cons]
      exact ⟨rfl, rfl, rfl, nofun⟩
    exact Option.some.inj (decodeWithin_of_nestsWithin nests).symm
  have same : SameLevels 1 response other := by
    refine .buckets rfl rfl rfl rfl rfl ?_ ?_
    · simp [elements]
    · simp only [elements, List.zip_cons_cons, List.zip_nil_left, List.forall_mem_cons]
      exact ⟨.metric rfl rfl rfl rfl rfl, .metric rfl rfl rfl rfl rfl,
        .buckets rfl rfl rfl rfl rfl nofun nofun, nofun⟩
  obtain ⟨-, returned, alike⟩ := decode_returns response 1
  obtain ⟨⟨level, found, ⟨elements, entries, listed, filed⟩ | ⟨bare, -⟩⟩, -, full⟩ :=
    returned result decoded
  · cases found
    cases listed
    exact ⟨decoded, ⟨entries, filed⟩, full, same, (alike other same _).mp decoded⟩
  · cases found
    exact nomatch bare

end DocSearch.AggregationResult
