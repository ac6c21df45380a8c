import DocSearch.Aggregation.Keyed
import DocSearch.Error
import DocSearch.Json.Printer

namespace DocSearch

/-! The answer to an aggregation has each level under its depth in decimal. A level with buckets
becomes a keyed list, a level with a value becomes a metric, and a bucket with nothing inside
counts its documents. -/

inductive AggregationResult where
  /-- The value as the cluster gave it; it may be `null`. -/
  | metric (value : Json)
  /-- The results by bucket key, each key once, in the order of the response. -/
  | buckets (entries : List (String × AggregationResult))
  | count (documents : Nat)

namespace AggregationResult

def nat? : AggregationResult → Option Nat
  | metric value => value.nat?
  | count documents => some documents
  | buckets _ => none

def double? : AggregationResult → Option Double
  | metric value => value.double?
  | count documents => some (.ofNat documents)
  | buckets _ => none

def buckets? : AggregationResult → Option (List (String × AggregationResult))
  | buckets entries => some entries
  | _ => none

def get? (key : String) (result : AggregationResult) : Option AggregationResult :=
  result.buckets?.bind fun entries => entries.lookup key

def isEmpty : AggregationResult → Bool
  | buckets [] => true
  | _ => false

end AggregationResult

/-- Why the answer to an aggregation cannot be read, and the depth at which that shows. -/
inductive LevelDefect where
  | bucketsNotArray (depth : Nat)
  | bucketWithoutKey (depth : Nat)
  | bucketWithoutCount (depth : Nat) (key : String)
  | unknownLevel (depth : Nat) (level : Json)

namespace LevelDefect

def message : LevelDefect → String
  | bucketsNotArray depth => "level " ++ toString depth ++ ": buckets must be an array"
  | bucketWithoutKey depth => "level " ++ toString depth ++ ": bucket has no key"
  | bucketWithoutCount depth key =>
    "level " ++ toString depth ++ ": bucket `" ++ key ++ "` has no doc_count"
  | unknownLevel depth level =>
    "level " ++ toString depth ++ ": expected `buckets` or `value`, found " ++ level.render

def toError (defect : LevelDefect) : Error := .malformedResponse defect.message

end LevelDefect

theorem Json.sizeOf_lookup_lt {members : List (String × Json)} {key : String} {value : Json}
    (found : members.lookup key = some value) : sizeOf value < sizeOf members := by
  induction members with
  | nil => simp at found
  | cons member rest ih =>
      obtain ⟨k, v⟩ := member
      rw [List.lookup_cons] at found
      cases same : key == k with
      | true => simp_all; omega
      | false => have := ih (by simpa [same] using found); simp; omega

theorem Json.sizeOf_get?_lt {json : Json} {key : String} {value : Json}
    (found : json.get? key = some value) : sizeOf value < sizeOf json := by
  cases json with
  | obj members => have := sizeOf_lookup_lt found; simp; omega
  | _ => simp [Json.get?] at found

def bucketKey? (bucket : Json) : Option String :=
  (bucket.get? "key").map fun key =>
    match key with
    | .str text => text
    | other => other.render

namespace AggregationResult

/-- The result inside a bucket, or the number of its documents when there is none. -/
def orCount (documents : Nat) : Option AggregationResult → AggregationResult
  | some result => if result.isEmpty then count documents else result
  | none => count documents

mutual
/-- Reads the level of the given depth and everything below it; `none` when a response has no
such level. -/
def decode (response : Json) (depth : Nat) : Except LevelDefect (Option AggregationResult) :=
  match _found : response.get? (toString depth) with
  | none => .ok none
  | some level =>
    match _foundBuckets : level.get? "buckets" with
    | some (.arr elements) =>
      match decodeBuckets depth elements with
      | .ok pairs => .ok (some (buckets (Keyed.ofList pairs)))
      | .error defect => .error defect
    | some _ => .error (.bucketsNotArray depth)
    | none =>
      match level.get? "value" with
      | some value => .ok (some (metric value))
      | none => .error (.unknownLevel depth level)
termination_by sizeOf response
decreasing_by
  have outer := Json.sizeOf_get?_lt _found
  have inner := Json.sizeOf_get?_lt _foundBuckets
  simp at inner
  omega

/-- Reads buckets in order, up to the first defect. -/
def decodeBuckets (depth : Nat) :
    List Json → Except LevelDefect (List (String × AggregationResult))
  | [] => .ok []
  | bucket :: rest =>
    match bucketKey? bucket with
    | none => .error (.bucketWithoutKey depth)
    | some key =>
      match (bucket.get? "doc_count").bind Json.nat? with
      | none => .error (.bucketWithoutCount depth key)
      | some documents =>
        match decode bucket (depth + 1) with
        | .error defect => .error defect
        | .ok inner =>
          match decodeBuckets depth rest with
          | .error defect => .error defect
          | .ok pairs => .ok ((key, orCount documents inner) :: pairs)
termination_by buckets => sizeOf buckets
end

end AggregationResult

end DocSearch
