import DocSearch.Aggregation.Result
import DocSearch.Proofs.Json
import DocSearch.Query

namespace DocSearch

/-! A compiled query is a tree of `bool` fragments over leaves. The index decides the leaves and
the sides of ranges; everything above them is decided here, once over the fragments and once over
the expressions, and the two agree. -/

/-- What only the index knows of a document. -/
structure Oracle where
  leaf : (kind field : String) → Json → Bool
  side : (field operator : String) → Json → Bool

namespace Json

/-- The list that an object has under a key; without one it is empty. -/
def listAt (key : String) (json : Json) : List Json := ((json.get? key).bind Json.array?).getD []

theorem listAt_of_get? {json : Json} {key : String} {elements : List Json}
    (found : json.get? key = some (.arr elements)) : json.listAt key = elements := by
  simp [listAt, found, array?]

theorem listAt_of_absent {json : Json} {key : String} (absent : json.get? key = none) :
    json.listAt key = [] := by
  simp [listAt, absent]

theorem sizeOf_lt_of_mem_listAt {json element : Json} {key : String}
    (member : element ∈ json.listAt key) : sizeOf element < sizeOf json := by
  cases found : json.get? key with
  | none => simp [listAt, found] at member
  | some value =>
      have inner := sizeOf_get?_lt found
      cases value with
      | arr elements =>
          rw [listAt_of_get? found] at member
          have below := List.sizeOf_lt_of_mem member
          simp only [arr.sizeOf_spec] at inner
          omega
      | _ => simp [listAt, found, array?] at member

end Json

namespace Oracle

variable (oracle : Oracle)

/-- A fragment matches. A `bool` asks for all of `filter`, none of `must_not` and so many of
`should`; a range asks for each of its sides. -/
def accepts (fragment : Json) : Bool :=
  match fragment with
  | .obj [("bool", body)] =>
      -- Members of the lists are attached only to show that they are smaller.
      (body.listAt "filter").attach.all (fun inner => accepts inner.1) &&
        !(body.listAt "must_not").attach.any (fun inner => accepts inner.1) &&
        decide (((body.get? "minimum_should_match").bind Json.nat?).getD 0 ≤
          (body.listAt "should").attach.countP fun inner => accepts inner.1)
  | .obj [("range", .obj [(field, .obj sides)])] =>
      sides.all fun side => oracle.side field side.1 side.2
  | .obj [(kind, .obj [(field, value)])] => oracle.leaf kind field value
  | _ => false
termination_by sizeOf fragment
decreasing_by
  all_goals
    have below := Json.sizeOf_lt_of_mem_listAt inner.2
    simp
    omega

theorem accepts_bool (body : Json) :
    oracle.accepts (.obj [("bool", body)]) = true ↔
      (∀ inner ∈ body.listAt "filter", oracle.accepts inner = true) ∧
      (∀ inner ∈ body.listAt "must_not", ¬ oracle.accepts inner = true) ∧
      ((body.get? "minimum_should_match").bind Json.nat?).getD 0 ≤
        (body.listAt "should").countP oracle.accepts := by
  rw [accepts]
  simp [List.countP_attach, and_assoc]

/-- A `bool` over given lists of which one is asked for so many. -/
theorem accepts_bool_of_get? {body : Json} {least : Nat} {should : List Json}
    (asked : body.get? "minimum_should_match" = some (.ofNat least))
    (offered : body.get? "should" = some (.arr should)) :
    oracle.accepts (.obj [("bool", body)]) = true ↔
      (∀ inner ∈ body.listAt "filter", oracle.accepts inner = true) ∧
      (∀ inner ∈ body.listAt "must_not", ¬ oracle.accepts inner = true) ∧
      least ≤ should.countP oracle.accepts := by
  rw [accepts_bool, asked, Json.listAt_of_get? offered, Option.bind_some, Json.nat?_ofNat,
    Option.getD_some]

theorem accepts_range (field : String) (sides : List (String × Json)) :
    oracle.accepts (.obj [("range", .obj [(field, .obj sides)])]) =
      sides.all fun side => oracle.side field side.1 side.2 := by
  rw [accepts]

theorem accepts_compileLeaf (kind : LeafKind) (field : String) (value : Json) :
    oracle.accepts (Expression.compileLeaf kind field value) = oracle.leaf kind.key field value := by
  cases kind <;> simp [Expression.compileLeaf, LeafKind.key, accepts]

end Oracle

def Expression.Holds (oracle : Oracle) : Expression → Prop
  | .leaf .matchPhrase field value => oracle.leaf "match_phrase" field value = true
  | .leaf .matchPhrasePrefix field value => oracle.leaf "match_phrase_prefix" field value = true
  | .leaf .wildcard field value => oracle.leaf "wildcard" field value = true
  | .leaf .regexp field value => oracle.leaf "regexp" field value = true
  | .range interval =>
      (∀ low ∈ interval.low, oracle.side interval.field
        (if interval.leftOpen then "gt" else "gte") low.compile = true) ∧
      (∀ high ∈ interval.high, oracle.side interval.field
        (if interval.rightOpen then "lt" else "lte") high.compile = true)
  | .contains field values minMatch =>
      minMatch ≤ values.countP fun value => oracle.leaf "match_phrase" field value

/-- What is left of an interval without its upper side. -/
def RangeExpression.lower (interval : RangeExpression) : RangeExpression :=
  { interval with high := none }

def RangeExpression.upper (interval : RangeExpression) : RangeExpression :=
  { interval with low := none }

structure Query.Holds (oracle : Oracle) (query : Query) : Prop where
  filter : ∀ expression ∈ query.filter, expression.Holds oracle
  exclude : ∀ expression ∈ query.exclude, ¬ expression.Holds oracle
  union : query.union = [] ∨ ∃ expression ∈ query.union, expression.Holds oracle

namespace Oracle

variable (oracle : Oracle)

theorem accepts_rangeExpression (interval : RangeExpression) :
    oracle.accepts interval.compile = true ↔ (Expression.range interval).Holds oracle := by
  obtain ⟨field, low, high, leftOpen, rightOpen⟩ := interval
  rw [RangeExpression.compile, accepts_range]
  cases low <;> cases high <;>
    simp [RangeExpression.sides, RangeExpression.lowKey, RangeExpression.highKey, Expression.Holds]

theorem accepts_contains (field : String) (values : List Json) (minMatch : Nat) :
    oracle.accepts (Expression.contains field values minMatch).compile = true ↔
      (Expression.contains field values minMatch).Holds oracle := by
  have phrases : (oracle.accepts ∘ Expression.compileLeaf .matchPhrase field) =
      fun value => oracle.leaf "match_phrase" field value :=
    funext fun value => oracle.accepts_compileLeaf .matchPhrase field value
  rw [Expression.compile, accepts_bool_of_get? _ rfl rfl, Json.listAt_of_absent rfl,
    Json.listAt_of_absent rfl, List.countP_map, phrases]
  simp [Expression.Holds]

theorem accepts_expression (expression : Expression) :
    oracle.accepts expression.compile = true ↔ expression.Holds oracle := by
  cases expression with
  | leaf kind field value =>
      rw [Expression.compile, accepts_compileLeaf]
      cases kind <;> rfl
  | range interval => exact oracle.accepts_rangeExpression interval
  | contains field values minMatch => exact oracle.accepts_contains field values minMatch

theorem countP_accepts_compile_pos (expressions : List Expression) :
    0 < (expressions.map Expression.compile).countP oracle.accepts ↔
      ∃ expression ∈ expressions, expression.Holds oracle := by
  simp [List.countP_pos_iff, accepts_expression]

theorem accepts_query (query : Query) :
    oracle.accepts query.compile = true ↔ query.Holds oracle := by
  have filtered : (∀ inner ∈ query.filter.map Expression.compile, oracle.accepts inner = true) ↔
      ∀ expression ∈ query.filter, expression.Holds oracle := by
    simp only [List.forall_mem_map, accepts_expression]
  have excluded : (∀ inner ∈ query.exclude.map Expression.compile, ¬ oracle.accepts inner = true) ↔
      ∀ expression ∈ query.exclude, ¬ expression.Holds oracle := by
    simp only [List.forall_mem_map, accepts_expression]
  -- One match is asked for only where there is something to match.
  have united : (if query.union.isEmpty then 0 else 1) ≤
        (query.union.map Expression.compile).countP oracle.accepts ↔
      query.union = [] ∨ ∃ expression ∈ query.union, expression.Holds oracle := by
    rw [← oracle.countP_accepts_compile_pos]
    cases query.union with
    | nil => simp
    | cons first rest => simp [Nat.one_le_iff_ne_zero, Nat.pos_iff_ne_zero]
  rw [Query.compile, accepts_bool_of_get? _ rfl rfl, Json.listAt_of_get? rfl,
    Json.listAt_of_get? rfl, filtered, excluded, united]
  constructor
  · rintro ⟨filter, exclude, union⟩
    exact ⟨filter, exclude, union⟩
  · intro holds
    exact ⟨holds.filter, holds.exclude, holds.union⟩

theorem holds_range_iff_sides (interval : RangeExpression) :
    (Expression.range interval).Holds oracle ↔
      (Expression.range interval.lower).Holds oracle ∧
      (Expression.range interval.upper).Holds oracle := by
  have missing (side : Bound → Prop) : ∀ bound ∈ (none : Option Bound), side bound := by simp
  constructor
  · intro holds
    exact ⟨⟨holds.1, missing _⟩, ⟨missing _, holds.2⟩⟩
  · intro holds
    exact ⟨holds.1.1, holds.2.2⟩

theorem holds_filter_split (query : Query) (interval : RangeExpression)
    (before after : List Expression) :
    ({ query with filter := before ++ .range interval :: after } : Query).Holds oracle ↔
      ({ query with filter := before ++ .range interval.lower :: .range interval.upper :: after } :
        Query).Holds oracle := by
  constructor
  · rintro ⟨filter, exclude, union⟩
    simp only [List.forall_mem_append, List.forall_mem_cons, oracle.holds_range_iff_sides interval,
      and_assoc] at filter
    exact ⟨by simpa only [List.forall_mem_append, List.forall_mem_cons] using filter,
      exclude, union⟩
  · rintro ⟨filter, exclude, union⟩
    simp only [List.forall_mem_append, List.forall_mem_cons] at filter
    refine ⟨?_, exclude, union⟩
    simpa only [List.forall_mem_append, List.forall_mem_cons,
      oracle.holds_range_iff_sides interval, and_assoc] using filter

/-- A compiled query matches where the query holds. In particular an interval says what its sides
say, each for itself, and may be given to a filter as two ranges. -/
theorem accepts_compile_iff_holds (query : Query) :
    (oracle.accepts query.compile = true ↔ query.Holds oracle) ∧
    ∀ (interval : RangeExpression) (before after : List Expression),
      oracle.accepts interval.compile =
        (oracle.accepts interval.lower.compile && oracle.accepts interval.upper.compile) ∧
      oracle.accepts
          ({ query with filter := before ++ .range interval :: after } : Query).compile =
        oracle.accepts
          ({ query with filter := before ++ .range interval.lower :: .range interval.upper :: after } :
            Query).compile := by
  refine ⟨oracle.accepts_query query, fun interval before after => ⟨?_, ?_⟩⟩
  · rw [Bool.eq_iff_iff, Bool.and_eq_true]
    simp only [accepts_rangeExpression]
    exact oracle.holds_range_iff_sides interval
  · rw [Bool.eq_iff_iff, accepts_query, accepts_query]
    exact oracle.holds_filter_split query interval before after

end Oracle

end DocSearch
