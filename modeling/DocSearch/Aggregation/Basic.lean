import DocSearch.Json.Basic

namespace DocSearch

/-! A chain of levels: terms group the documents and may hold one aggregation that is computed in
every group, metrics end the chain. Each level is compiled under its depth in decimal. -/

inductive Aggregation where
  | terms (field : String) (maxBuckets : Nat) (child : Option Aggregation)
  | sum (field : String)
  | cardinality (field : String)

namespace Aggregation

/-- Buckets per level unless told otherwise. -/
def defaultMaxBuckets : Nat := 100

def keywordField (field : String) : String := field ++ ".keyword"

/-- The same level over the keyword part of its field; inner levels keep theirs. -/
def overKeyword : Aggregation → Aggregation
  | terms field maxBuckets child => terms (keywordField field) maxBuckets child
  | sum field => sum (keywordField field)
  | cardinality field => cardinality (keywordField field)

/-- Sets what is computed in every group; a metric has no groups. -/
def nest (child : Aggregation) : Aggregation → Aggregation
  | terms field maxBuckets _ => terms field maxBuckets (some child)
  | metric => metric

def compile (depth : Nat) : Aggregation → Json
  | terms field maxBuckets none => .obj [(toString depth, .obj [
      ("aggs", .obj []),
      ("terms", .obj [("field", .str field), ("size", .ofNat maxBuckets)])])]
  | terms field maxBuckets (some child) => .obj [(toString depth, .obj [
      ("aggs", compile (depth + 1) child),
      ("terms", .obj [("field", .str field), ("size", .ofNat maxBuckets)])])]
  | sum field => .obj [(toString depth, .obj [("sum", .obj [("field", .str field)])])]
  | cardinality field =>
    .obj [(toString depth, .obj [("cardinality", .obj [("field", .str field)])])]

def same : Aggregation → Aggregation → Bool
  | terms f m none, terms g n none => f == g && m == n
  | terms f m (some a), terms g n (some b) => f == g && m == n && same a b
  | sum f, sum g => f == g
  | cardinality f, cardinality g => f == g
  | _, _ => false

instance : BEq Aggregation := ⟨same⟩

end Aggregation

end DocSearch
