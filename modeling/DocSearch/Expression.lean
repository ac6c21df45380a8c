import DocSearch.Bound

namespace DocSearch

/-! A predicate on one field of a document, and the fragment of the query language it compiles to.
-/

inductive LeafKind where
  | matchPhrase
  | matchPhrasePrefix
  | wildcard
  | regexp
  deriving DecidableEq, Repr

def LeafKind.key : LeafKind → String
  | matchPhrase => "match_phrase"
  | matchPhrasePrefix => "match_phrase_prefix"
  | wildcard => "wildcard"
  | regexp => "regexp"

/-- An interval of values; either side may be missing, and either may be open. -/
structure RangeExpression where
  field : String
  low : Option Bound := none
  high : Option Bound := none
  leftOpen : Bool := false
  rightOpen : Bool := false

inductive Expression where
  | leaf (kind : LeafKind) (field : String) (value : Json)
  | range (range : RangeExpression)
  /-- At least `minMatch` of the values match as phrases. -/
  | contains (field : String) (values : List Json) (minMatch : Nat)

namespace RangeExpression

def atLeast (field : String) (low : Bound) : RangeExpression := { field, low := some low }

def atMost (field : String) (high : Bound) : RangeExpression := { field, high := some high }

def lowKey (range : RangeExpression) : String := if range.leftOpen then "gt" else "gte"

def highKey (range : RangeExpression) : String := if range.rightOpen then "lt" else "lte"

/-- The sides that are present, each under its operator. -/
def sides (range : RangeExpression) : List (String × Json) :=
  (range.low.map fun low => (range.lowKey, low.compile)).toList ++
    (range.high.map fun high => (range.highKey, high.compile)).toList

def compile (range : RangeExpression) : Json :=
  .obj [("range", .obj [(range.field, .obj range.sides)])]

def same (a b : RangeExpression) : Bool :=
  a.field == b.field && a.low == b.low && a.high == b.high && a.leftOpen == b.leftOpen &&
    a.rightOpen == b.rightOpen

end RangeExpression

namespace Expression

def field : Expression → String
  | leaf _ field _ => field
  | range r => r.field
  | contains field _ _ => field

def compileLeaf (kind : LeafKind) (field : String) (value : Json) : Json :=
  .obj [(kind.key, .obj [(field, value)])]

def compile : Expression → Json
  | leaf kind field value => compileLeaf kind field value
  | range r => r.compile
  | contains field values minMatch =>
    .obj [("bool", .obj [
      ("minimum_should_match", .ofNat minMatch),
      ("should", .arr (values.map (compileLeaf .matchPhrase field)))])]

def same : Expression → Expression → Bool
  | leaf k f v, leaf l g w => k == l && f == g && v == w
  | range r, range s => r.same s
  | contains f vs n, contains g ws m => f == g && vs == ws && n == m
  | _, _ => false

instance : BEq Expression := ⟨same⟩

end Expression

end DocSearch
