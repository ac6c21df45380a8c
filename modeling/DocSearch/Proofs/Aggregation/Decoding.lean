import DocSearch.Aggregation.Basic
import DocSearch.Aggregation.Result
import Mathlib.Data.List.Forall2

namespace DocSearch

/-! Reading the answer to an aggregation looks at one member of the response only, the one named
by the depth. A list of buckets is read if each of them is, and pairs with distinct keys make a
keyed list in their own order. -/

theorem toString_ne_of_mem {depth : Nat} {name : String} {c : Char} (member : c ∈ name.toList)
    (letter : c.isDigit = false) : toString depth ≠ name := by
  intro same
  rw [← same, Nat.toString_eq_ofList_toDigits, String.toList_ofList] at member
  have digit := Nat.isDigit_of_mem_toDigits (by decide) (by decide) member
  rw [letter] at digit
  contradiction

theorem toString_ne_key (depth : Nat) : toString depth ≠ "key" :=
  toString_ne_of_mem (c := 'k') (by decide) (by decide)

theorem toString_ne_doc_count (depth : Nat) : toString depth ≠ "doc_count" :=
  toString_ne_of_mem (c := 'd') (by decide) (by decide)

namespace Json

/-- The text under which a bucket key is filed. -/
def keyText : Json → String
  | .str text => text
  | other => other.render

end Json

theorem bucketKey?_of_key {bucket key : Json} (found : bucket.get? "key" = some key) :
    bucketKey? bucket = some key.keyText := by
  simp only [bucketKey?, found, Option.map_some]
  cases key <;> rfl

namespace Keyed

variable {α : Type}

theorem insert_of_not_mem {entries : List (String × α)} {key : String} (value : α)
    (new : key ∉ keys entries) : insert entries key value = entries ++ [(key, value)] := by
  induction entries with
  | nil => rfl
  | cons entry rest ih =>
      obtain ⟨k, v⟩ := entry
      simp only [keys, List.map_cons, List.mem_cons, not_or] at new
      have other : ¬ k = key := fun same => new.1 same.symm
      rw [insert, if_neg other, ih new.2, List.cons_append]

theorem foldl_insert_of_nodup {pairs entries : List (String × α)}
    (distinct : (keys (entries ++ pairs)).Nodup) :
    pairs.foldl (fun entries pair => insert entries pair.1 pair.2) entries = entries ++ pairs := by
  induction pairs generalizing entries with
  | nil => simp
  | cons pair rest ih =>
      have new : pair.1 ∉ keys entries := by
        intro member
        simp only [keys, List.map_append, List.map_cons] at distinct member
        exact (List.nodup_append.mp distinct).2.2 _ member _ (by simp) rfl
      rw [List.foldl_cons, insert_of_not_mem pair.2 new, ih (by simpa using distinct)]
      simp

theorem ofList_of_nodup {pairs : List (String × α)} (distinct : (keys pairs).Nodup) :
    ofList pairs = pairs := by
  have none : (keys ([] ++ pairs)).Nodup := distinct
  exact foldl_insert_of_nodup none

end Keyed

namespace AggregationResult

/-- The result of a level, given what the response has under its depth. -/
def readLevel (depth : Nat) (level : Json) : Except LevelDefect AggregationResult :=
  match level.get? "buckets" with
  | some (.arr elements) => (decodeBuckets depth elements).map fun pairs => buckets (Keyed.ofList pairs)
  | some _ => .error (.bucketsNotArray depth)
  | none =>
    match level.get? "value" with
    | some value => .ok (metric value)
    | none => .error (.unknownLevel depth level)

/-- Reading without the recorded equations that make the recursion end. -/
theorem decode_eq (response : Json) (depth : Nat) :
    decode response depth =
      match response.get? (toString depth) with
      | none => .ok none
      | some level => (readLevel depth level).map some := by
  rw [decode]
  split
  · rename_i absent
    rw [absent]
  · rename_i level found
    simp only [found, readLevel]
    split
    · rename_i elements present
      simp only [present]
      cases decodeBuckets depth elements <;> rfl
    · rename_i other notArray present
      rw [present]
      cases other with
      | arr elements => exact absurd rfl (notArray elements)
      | _ => rfl
    · rename_i absent
      rw [absent]
      cases level.get? "value" <;> rfl

/-- Only the member named by the depth counts. -/
theorem decode_congr {left right : Json} {depth : Nat}
    (same : left.get? (toString depth) = right.get? (toString depth)) :
    decode left depth = decode right depth := by
  rw [decode_eq, decode_eq, same]

theorem decode_absent {response : Json} {depth : Nat}
    (absent : response.get? (toString depth) = none) : decode response depth = .ok none := by
  rw [decode_eq, absent]

/-- A bucket is read as a pair of its key and what is inside, or its count. -/
structure ReadsBucket (depth : Nat) (bucket : Json) (pair : String × AggregationResult) : Prop where
  key : bucketKey? bucket = some pair.1
  entry : ∃ documents inner, (bucket.get? "doc_count").bind Json.nat? = some documents ∧
    decode bucket (depth + 1) = .ok inner ∧ pair.2 = orCount documents inner

theorem decodeBuckets_ok {depth : Nat} {elements : List Json}
    {pairs : List (String × AggregationResult)}
    (read : List.Forall₂ (ReadsBucket depth) elements pairs) :
    decodeBuckets depth elements = .ok pairs := by
  induction read with
  | nil => rw [decodeBuckets]
  | cons first _ ih =>
      obtain ⟨key, documents, inner, counted, decoded, entry⟩ := first
      simp only [decodeBuckets, key, counted, decoded, ih, ← entry]

/-- Buckets with distinct keys make the result of their level, in their order. -/
theorem decode_buckets {response level : Json} {depth : Nat} {elements : List Json}
    {pairs : List (String × AggregationResult)}
    (found : response.get? (toString depth) = some level)
    (listed : level.get? "buckets" = some (.arr elements))
    (read : List.Forall₂ (ReadsBucket depth) elements pairs)
    (distinct : (Keyed.keys pairs).Nodup) :
    decode response depth = .ok (some (buckets pairs)) := by
  simp only [decode_eq, found, readLevel, listed, decodeBuckets_ok read,
    Keyed.ofList_of_nodup distinct, Except.map]

theorem decode_value {response level value : Json} {depth : Nat}
    (found : response.get? (toString depth) = some level)
    (bare : level.get? "buckets" = none) (valued : level.get? "value" = some value) :
    decode response depth = .ok (some (metric value)) := by
  simp only [decode_eq, found, readLevel, bare, valued, Except.map]

end AggregationResult

end DocSearch
