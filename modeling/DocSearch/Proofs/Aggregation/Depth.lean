import DocSearch.Proofs.Aggregation.Decoding

namespace DocSearch.AggregationResult

/-! Reading with a counter of levels that can run out. A response whose levels nest no deeper than
the counter reaches is read as it is without one, so nothing else in a response stops the reading.
-/

/-- The pairs of buckets, given how what is inside a bucket is read; `none` where that is none. -/
def bucketsBy (inside : Json → Option (Except LevelDefect (Option AggregationResult)))
    (depth : Nat) : List Json → Option (Except LevelDefect (List (String × AggregationResult)))
  | [] => some (.ok [])
  | bucket :: rest =>
    match bucketKey? bucket with
    | none => some (.error (.bucketWithoutKey depth))
    | some key =>
      match (bucket.get? "doc_count").bind Json.nat? with
      | none => some (.error (.bucketWithoutCount depth key))
      | some documents =>
        match inside bucket with
        | none => none
        | some (.error defect) => some (.error defect)
        | some (.ok inner) => (bucketsBy inside depth rest).map fun read =>
          read.map fun pairs => (key, orCount documents inner) :: pairs

def levelBy (inside : Json → Option (Except LevelDefect (Option AggregationResult)))
    (response : Json) (depth : Nat) : Option (Except LevelDefect (Option AggregationResult)) :=
  match response.get? (toString depth) with
  | none => some (.ok none)
  | some level =>
    match level.get? "buckets" with
    | some (.arr elements) => (bucketsBy inside depth elements).map fun read =>
      read.map fun pairs => some (buckets (Keyed.ofList pairs))
    | some _ => some (.error (.bucketsNotArray depth))
    | none =>
      match level.get? "value" with
      | some value => some (.ok (some (metric value)))
      | none => some (.error (.unknownLevel depth level))

/-- Reads a response with so many levels left to go down; `none` when they do not suffice. -/
def decodeWithin : Nat → Json → Nat → Option (Except LevelDefect (Option AggregationResult))
  | 0, response, depth => levelBy (fun _ => none) response depth
  | room + 1, response, depth =>
    levelBy (fun bucket => decodeWithin room bucket (depth + 1)) response depth

def bucketsAt (response : Json) (depth : Nat) : List Json :=
  (((response.get? (toString depth)).bind (·.get? "buckets")).bind (·.array?)).getD []

/-- There are at most so many levels of buckets, one inside the other. -/
def NestsWithin : Nat → Json → Nat → Prop
  | 0, response, depth => bucketsAt response depth = []
  | room + 1, response, depth =>
    ∀ bucket ∈ bucketsAt response depth, NestsWithin room bucket (depth + 1)

variable {inside : Json → Option (Except LevelDefect (Option AggregationResult))} {depth : Nat}

theorem bucketsBy_eq {elements : List Json}
    (agrees : ∀ bucket ∈ elements, inside bucket = some (decode bucket (depth + 1))) :
    bucketsBy inside depth elements = some (decodeBuckets depth elements) := by
  induction elements with
  | nil => rw [bucketsBy, decodeBuckets]
  | cons bucket rest ih =>
      have tail := ih fun other member => agrees other (by simp [member])
      rw [bucketsBy, decodeBuckets, agrees bucket (by simp), tail]
      cases bucketKey? bucket with
      | none => rfl
      | some key =>
          cases (bucket.get? "doc_count").bind Json.nat? with
          | none => rfl
          | some documents =>
              cases decode bucket (depth + 1) with
              | error defect => rfl
              | ok inner => cases decodeBuckets depth rest <;> rfl

theorem levelBy_eq {response : Json}
    (agrees : ∀ bucket ∈ bucketsAt response depth,
      inside bucket = some (decode bucket (depth + 1))) :
    levelBy inside response depth = some (decode response depth) := by
  rw [levelBy, decode_eq]
  cases found : response.get? (toString depth) with
  | none => rfl
  | some level =>
      simp only [readLevel]
      cases listed : level.get? "buckets" with
      | none => cases level.get? "value" <;> rfl
      | some value =>
          cases value with
          | arr elements =>
              have here : bucketsAt response depth = elements := by
                simp only [bucketsAt, found, Option.bind_some, listed, Json.array?,
                  Option.getD_some]
              simp only [bucketsBy_eq (here ▸ agrees)]
              cases decodeBuckets depth elements <;> rfl
          | _ => rfl

theorem decodeWithin_of_nestsWithin {room : Nat} {response : Json}
    (nests : NestsWithin room response depth) :
    decodeWithin room response depth = some (decode response depth) := by
  induction room generalizing response depth with
  | zero =>
      have bare : bucketsAt response depth = [] := nests
      exact levelBy_eq (by simp [bare])
  | succ room ih => exact levelBy_eq fun bucket member => ih (nests bucket member)

/-- The level inside a bucket is looked for even where there is none, so it needs room. -/
example : decodeWithin 0 (.obj [("1", .obj [("buckets",
    .arr [.obj [("key", .str "a"), ("doc_count", .ofNat 1)]])])]) 1 = none := by rfl

end DocSearch.AggregationResult
