import DocSearch.Proofs.Aggregation.Depth

namespace DocSearch

/-! When the answer to an aggregation cannot be read. The reader walks through the answer in depth,
and what it reports is the first defect on its way. -/

/-- What a defect is, apart from the depth at which it is. -/
def LevelDefect.reason : LevelDefect → String
  | bucketsNotArray _ => "buckets must be an array"
  | bucketWithoutKey _ => "bucket has no key"
  | bucketWithoutCount _ key => "bucket `" ++ key ++ "` has no doc_count"
  | unknownLevel _ level => "expected `buckets` or `value`, found " ++ level.render

def LevelDefect.depth : LevelDefect → Nat
  | bucketsNotArray depth => depth
  | bucketWithoutKey depth => depth
  | bucketWithoutCount depth _ => depth
  | unknownLevel depth _ => depth

theorem LevelDefect.message_eq (defect : LevelDefect) :
    defect.message = "level " ++ toString defect.depth ++ ": " ++ defect.reason := by
  -- The text of each defect begins with the mark that stands before its reason here.
  have notArray : ": buckets must be an array" = ": " ++ "buckets must be an array" := by decide
  have noKey : ": bucket has no key" = ": " ++ "bucket has no key" := by decide
  have noCount : ": bucket `" = ": " ++ "bucket `" := by decide
  have unknown : ": expected `buckets` or `value`, found " =
      ": " ++ "expected `buckets` or `value`, found " := by decide
  cases defect with
  | bucketsNotArray _ =>
      rw [message, notArray, ← String.append_assoc]
      rfl
  | bucketWithoutKey _ =>
      rw [message, noKey, ← String.append_assoc]
      rfl
  | bucketWithoutCount _ _ =>
      rw [message, noCount, ← String.append_assoc, String.append_assoc, String.append_assoc]
      rfl
  | unknownLevel _ _ =>
      rw [message, unknown, ← String.append_assoc, String.append_assoc]
      rfl

namespace AggregationResult

/-- A place of an answer at which something has to be right. -/
inductive Site where
  /-- What the answer has under the name of a depth. -/
  | atLevel (depth : Nat) (level : Json)
  | atKey (depth : Nat) (bucket : Json)
  | atCount (depth : Nat) (bucket : Json)

namespace Site

def depth : Site → Nat
  | atLevel depth _ => depth
  | atKey depth _ => depth
  | atCount depth _ => depth

/-- A level has a list of buckets or a value, and a bucket has a key and a count. A bucket without
a count is named by its key, if there is one. -/
def flaw? : Site → Option LevelDefect
  | atLevel depth level =>
    match level.get? "buckets", level.get? "value" with
    | some (.arr _), _ => none
    | some _, _ => some (.bucketsNotArray depth)
    | none, some _ => none
    | none, none => some (.unknownLevel depth level)
  | atKey depth bucket =>
    if (bucket.get? "key").isSome then none else some (.bucketWithoutKey depth)
  | atCount depth bucket =>
    if ((bucket.get? "doc_count").bind Json.nat?).isSome then none
    else some (.bucketWithoutCount depth ((bucketKey? bucket).getD ""))

theorem depth_of_flaw? {site : Site} {defect : LevelDefect} (flawed : site.flaw? = some defect) :
    defect.depth = site.depth := by
  cases site with
  | atLevel depth level =>
      simp only [flaw?] at flawed
      split at flawed <;> cases flawed <;> rfl
  | atKey depth bucket =>
      simp only [flaw?] at flawed
      split at flawed <;> cases flawed
      rfl
  | atCount depth bucket =>
      simp only [flaw?] at flawed
      split at flawed <;> cases flawed
      rfl

end Site

variable {response level bucket : Json} {depth : Nat} {defect : LevelDefect}

theorem mem_bucketsAt_iff :
    bucket ∈ bucketsAt response depth ↔ ∃ level elements,
      response.get? (toString depth) = some level ∧ level.get? "buckets" = some (.arr elements) ∧
        bucket ∈ elements := by
  unfold bucketsAt
  cases response.get? (toString depth) with
  | none => simp
  | some level =>
      cases listed : level.get? "buckets" with
      | none => simp [listed]
      | some value => cases value <;> simp [listed, Json.array?]

theorem sizeOf_lt_of_mem_bucketsAt (member : bucket ∈ bucketsAt response depth) :
    sizeOf bucket < sizeOf response := by
  obtain ⟨level, elements, found, listed, inside⟩ := mem_bucketsAt_iff.mp member
  have first := List.sizeOf_lt_of_mem inside
  have second := Json.sizeOf_get?_lt listed
  have third := Json.sizeOf_get?_lt found
  simp only [Json.arr.sizeOf_spec] at second
  omega

/-- The places of an answer from the level of a depth on, in depth first. A bucket comes with all
that is inside it before the next one, and its key before its count. -/
def sites (response : Json) (depth : Nat) : List Site :=
  ((response.get? (toString depth)).map (.atLevel depth)).toList ++
    (bucketsAt response depth).attach.flatMap fun ⟨bucket, _⟩ =>
      .atKey depth bucket :: .atCount depth bucket :: sites bucket (depth + 1)
termination_by sizeOf response
decreasing_by exact sizeOf_lt_of_mem_bucketsAt ‹_›

theorem sites_eq (response : Json) (depth : Nat) :
    sites response depth =
      ((response.get? (toString depth)).map (.atLevel depth)).toList ++
        (bucketsAt response depth).flatMap fun bucket =>
          .atKey depth bucket :: .atCount depth bucket :: sites bucket (depth + 1) := by
  rw [sites]
  simp

/-- The error of a computation that fails. -/
def failure? {ε α : Type} : Except ε α → Option ε
  | .error e => some e
  | .ok _ => none

theorem findSome?_buckets {elements : List Json}
    (inside : ∀ bucket ∈ elements,
      (sites bucket (depth + 1)).findSome? Site.flaw? = failure? (decode bucket (depth + 1))) :
    (elements.flatMap fun bucket => .atKey depth bucket :: .atCount depth bucket ::
        sites bucket (depth + 1)).findSome? Site.flaw? =
      failure? (decodeBuckets depth elements) := by
  induction elements with
  | nil =>
      rw [decodeBuckets]
      rfl
  | cons bucket rest ih =>
      have here := inside bucket List.mem_cons_self
      have tail := ih fun other member => inside other (List.mem_cons_of_mem _ member)
      rw [List.flatMap_cons, List.findSome?_append, tail, decodeBuckets]
      simp only [List.findSome?_cons, Site.flaw?, here]
      cases key : bucket.get? "key" with
      | none => simp [bucketKey?, key, failure?]
      | some value =>
          simp only [Option.isSome_some, if_true, bucketKey?_of_key key]
          cases (bucket.get? "doc_count").bind Json.nat? with
          | none => rfl
          | some documents =>
              cases decode bucket (depth + 1) with
              | error defect => rfl
              | ok inner => cases decodeBuckets depth rest <;> rfl

theorem findSome?_sites (response : Json) (depth : Nat) :
    (sites response depth).findSome? Site.flaw? = failure? (decode response depth) := by
  have inside : ∀ bucket ∈ bucketsAt response depth,
      (sites bucket (depth + 1)).findSome? Site.flaw? = failure? (decode bucket (depth + 1)) :=
    fun bucket member => findSome?_sites bucket (depth + 1)
  rw [sites_eq, List.findSome?_append, findSome?_buckets inside, decode_eq, bucketsAt]
  cases response.get? (toString depth) with
  | none =>
      rw [Option.bind_none, Option.bind_none, Option.getD_none, decodeBuckets]
      rfl
  | some level =>
      simp only [Option.map_some, Option.toList_some, List.findSome?_singleton, Site.flaw?,
        Option.bind_some, readLevel]
      cases listed : level.get? "buckets" with
      | none =>
          rw [Option.bind_none, Option.getD_none, decodeBuckets]
          cases level.get? "value" <;> rfl
      | some value =>
          cases value with
          | arr elements =>
              simp only [Option.bind_some, Json.array?, Option.getD_some, Option.none_or]
              cases decodeBuckets depth elements <;> rfl
          | _ => rfl
termination_by sizeOf response
decreasing_by exact sizeOf_lt_of_mem_bucketsAt member

theorem mapError_decode_iff {e : Error} :
    (decode response depth).mapError LevelDefect.toError = .error e ↔
      ∃ defect, (sites response depth).findSome? Site.flaw? = some defect ∧ defect.toError = e := by
  rw [findSome?_sites]
  cases decode response depth <;> simp [Except.mapError, failure?]

theorem decode_fails_iff :
    (∃ e, (decode response depth).mapError LevelDefect.toError = .error e) ↔
      ∃ site ∈ sites response depth, site.flaw?.isSome := by
  rw [← List.findSome?_isSome_iff, Option.isSome_iff_exists]
  constructor
  · rintro ⟨e, failed⟩
    obtain ⟨defect, found, -⟩ := mapError_decode_iff.mp failed
    exact ⟨defect, found⟩
  · rintro ⟨defect, found⟩
    exact ⟨_, mapError_decode_iff.mpr ⟨defect, found, rfl⟩⟩

/-- When an answer cannot be read, and which error is reported. It is that of the first flawed place
on the way through the answer, and names the depth of that place. A flaw in a bucket or inside it
counts even if a later bucket has the same key. -/
theorem decode_fails (response : Json) (depth : Nat) :
    (∀ e, (decode response depth).mapError LevelDefect.toError = .error e ↔
      ∃ before site after defect, sites response depth = before ++ site :: after ∧
        (∀ earlier ∈ before, earlier.flaw? = none) ∧ site.flaw? = some defect ∧
        e = .malformedResponse ("level " ++ toString site.depth ++ ": " ++ defect.reason)) ∧
    ((∃ e, (decode response depth).mapError LevelDefect.toError = .error e) ↔
      ∃ site ∈ sites response depth, site.flaw?.isSome) ∧
    ∀ bucket ∈ bucketsAt response depth,
      (∃ site ∈ .atKey depth bucket :: .atCount depth bucket :: sites bucket (depth + 1),
        site.flaw?.isSome) →
      ∃ e, (decode response depth).mapError LevelDefect.toError = .error e := by
  refine ⟨fun e => ?_, decode_fails_iff, fun bucket member => ?_⟩
  · rw [mapError_decode_iff]
    constructor
    · rintro ⟨defect, found, rfl⟩
      obtain ⟨before, site, after, walk, flawed, sound⟩ := List.findSome?_eq_some_iff.mp found
      refine ⟨before, site, after, defect, walk, sound, flawed, ?_⟩
      rw [LevelDefect.toError, LevelDefect.message_eq, Site.depth_of_flaw? flawed]
    · rintro ⟨before, site, after, defect, walk, sound, flawed, rfl⟩
      refine ⟨defect, List.findSome?_eq_some_iff.mpr ⟨before, site, after, walk, flawed, sound⟩, ?_⟩
      rw [LevelDefect.toError, LevelDefect.message_eq, Site.depth_of_flaw? flawed]
  · rintro ⟨site, inside, flawed⟩
    refine decode_fails_iff.mpr ⟨site, ?_, flawed⟩
    rw [sites_eq]
    exact List.mem_append_right _ (List.mem_flatMap.mpr ⟨bucket, member, inside⟩)

/-- The first bucket is flawed inside. That the second one has no count is not reported, nor does it
help that it has the same key. -/
theorem decode_fails_inside :
    let first : Json := .obj [("2", .obj [("max", .ofNat 3)]), ("doc_count", .ofNat 1),
      ("key", .str "a")]
    let second : Json := .obj [("key", .str "a")]
    let response : Json := .obj [("1", .obj [("buckets", .arr [first, second])])]
    first ∈ bucketsAt response 1 ∧
      (∃ site ∈ .atKey 1 first :: .atCount 1 first :: sites first 2, site.flaw?.isSome) ∧
      (∃ e, (decode response 1).mapError LevelDefect.toError = .error e) ∧
      (decode response 1).mapError LevelDefect.toError = .error (.malformedResponse
        "level 2: expected `buckets` or `value`, found \x7b\"max\":3\x7d") := by
  intro first second response
  have inner : sites first 2 = [.atLevel 2 (.obj [("max", .ofNat 3)])] := by
    rw [sites_eq]
    rfl
  have walk : sites response 1 =
      [.atLevel 1 (.obj [("buckets", .arr [first, second])]), .atKey 1 first, .atCount 1 first] ++
        .atLevel 2 (.obj [("max", .ofNat 3)]) ::
          .atKey 1 second :: .atCount 1 second :: sites second 2 := by
    rw [sites_eq]
    have listed : bucketsAt response 1 = [first, second] := rfl
    rw [listed, List.flatMap_cons, List.flatMap_singleton, inner]
    rfl
  have member : first ∈ bucketsAt response 1 := List.mem_cons_self
  have flawed : ∃ site ∈ .atKey 1 first :: .atCount 1 first :: sites first 2,
      site.flaw?.isSome := ⟨.atLevel 2 (.obj [("max", .ofNat 3)]), by simp [inner], rfl⟩
  obtain ⟨reported, -, fails⟩ := decode_fails response 1
  refine ⟨member, flawed, fails first member flawed, (reported _).mpr
    ⟨_, _, _, _, walk, ?_, rfl, ?_⟩⟩
  · simp only [List.forall_mem_cons]
    exact ⟨rfl, rfl, rfl, nofun⟩
  · decide +kernel

end AggregationResult

end DocSearch
