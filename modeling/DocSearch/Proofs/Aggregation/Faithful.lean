import DocSearch.Aggregation.Basic
import DocSearch.Proofs.Json
import DocSearch.Text.Numeral

namespace DocSearch

/-! A compiled aggregation tells everything about itself. The name of its one member is the depth,
what the member holds shows of which kind the level is, and a level that groups has the next one, or
an empty object, under `aggs`. -/

/-- The members met on the way down through `aggs`, where no object has more than one. -/
inductive Json.Nests : Json → List (String × Json) → Prop where
  | nothing : Nests (.obj []) []
  | innermost {name : String} {body : Json} : body.get? "aggs" = none →
      Nests (.obj [(name, body)]) [(name, body)]
  | outer {name : String} {body inner : Json} {below : List (String × Json)} :
      body.get? "aggs" = some inner → Nests inner below →
      Nests (.obj [(name, body)]) ((name, body) :: below)

theorem Json.Nests.unique {json : Json} {met other : List (String × Json)}
    (nests : json.Nests met) (nests' : json.Nests other) : met = other := by
  induction nests generalizing other with
  | nothing => cases nests'; rfl
  | innermost absent =>
      cases nests' with
      | innermost => rfl
      | outer found => rw [absent] at found; contradiction
  | outer found _ ih =>
      cases nests' with
      | innermost absent => rw [absent] at found; contradiction
      | outer found' below =>
          obtain rfl := Option.some.inj (found.symm.trans found')
          rw [ih below]

namespace Aggregation

/-- The levels of a chain, from the outermost on. -/
def levels : Aggregation → List Aggregation
  | terms field maxBuckets none => [terms field maxBuckets none]
  | terms field maxBuckets (some child) => terms field maxBuckets (some child) :: levels child
  | sum field => [sum field]
  | cardinality field => [cardinality field]

/-- What stands under `aggs` of a level. -/
def nested (depth : Nat) : Option Aggregation → Json
  | none => .obj []
  | some child => child.compile (depth + 1)

/-- What a level is compiled to, without its name. -/
def fragment (depth : Nat) : Aggregation → Json
  | terms field maxBuckets child => .obj [
      ("aggs", nested depth child),
      ("terms", .obj [("field", .str field), ("size", .ofNat maxBuckets)])]
  | sum field => .obj [("sum", .obj [("field", .str field)])]
  | cardinality field => .obj [("cardinality", .obj [("field", .str field)])]

theorem compile_eq (aggregation : Aggregation) (depth : Nat) :
    aggregation.compile depth = .obj [(toString depth, aggregation.fragment depth)] := by
  cases aggregation with
  | terms field maxBuckets child => cases child <;> rw [compile] <;> rfl
  | sum field => rw [compile]; rfl
  | cardinality field => rw [compile]; rfl

theorem same_iff {a b : Aggregation} : (a == b) = true ↔ a = b := by
  show same a b = true ↔ a = b
  fun_induction same a b with
  | case1 field maxBuckets other others => simp
  | case2 field maxBuckets a other others b ih => simp [ih, and_assoc]
  | case3 field other => simp
  | case4 field other => simp
  | case5 a b last inner summed counted =>
      refine ⟨nofun, ?_⟩
      rintro rfl
      cases a with
      | terms field maxBuckets child =>
          cases child with
          | none => exact (last _ _ _ _ rfl rfl).elim
          | some child => exact (inner _ _ _ _ _ _ rfl rfl).elim
      | sum field => exact (summed _ _ rfl rfl).elim
      | cardinality field => exact (counted _ _ rfl rfl).elim

theorem nested_beq_iff {depth : Nat} {a b : Option Aggregation}
    (children : ∀ child ∈ a, ∀ other,
      (child.fragment (depth + 1) == other.fragment (depth + 1)) = true ↔ child = other) :
    (nested depth a == nested depth b) = true ↔ a = b := by
  cases a with
  | none =>
      cases b with
      | none => simp [nested]
      | some other => simp [nested, compile_eq]
  | some child =>
      cases b with
      | none => simp [nested, compile_eq]
      | some other => simp [nested, compile_eq, children child rfl]

theorem terms_beq_iff {field : String} {maxBuckets depth : Nat} {child : Option Aggregation}
    (children : ∀ inner ∈ child, ∀ other,
      (inner.fragment (depth + 1) == other.fragment (depth + 1)) = true ↔ inner = other)
    (b : Aggregation) :
    ((terms field maxBuckets child).fragment depth == b.fragment depth) = true ↔
      terms field maxBuckets child = b := by
  cases b with
  | terms other others child' =>
      simp only [fragment, Json.obj_cons_beq_cons, Json.str_beq_iff, Json.ofNat_beq_iff,
        Json.obj_nil_beq_nil, nested_beq_iff children, and_true, true_and, terms.injEq]
      exact and_comm.trans and_assoc
  | sum other => simp [fragment]
  | cardinality other => simp [fragment]

/-- Two levels at one depth say the same only if they are the same, with all that is below them. -/
theorem fragment_beq_iff (a b : Aggregation) (depth : Nat) :
    (a.fragment depth == b.fragment depth) = true ↔ a = b := by
  induction depth, a using compile.induct generalizing b with
  | case1 depth field maxBuckets => exact terms_beq_iff (by simp) b
  | case2 depth field maxBuckets child ih =>
      refine terms_beq_iff (fun inner member => ?_) b
      obtain rfl : child = inner := by simpa using member
      exact ih
  | case3 depth field => cases b <;> simp [fragment]
  | case4 depth field => cases b <;> simp [fragment]

theorem compile_beq_iff (a b : Aggregation) (d e : Nat) :
    (a.compile d == b.compile e) = true ↔ a = b ∧ d = e := by
  rw [compile_eq, compile_eq, Json.obj_cons_beq_cons, Numeral.decimal_inj]
  constructor
  · rintro ⟨rfl, same, -⟩
    exact ⟨(fragment_beq_iff a b d).mp same, rfl⟩
  · rintro ⟨rfl, rfl⟩
    exact ⟨rfl, (fragment_beq_iff a a d).mpr rfl, rfl⟩

theorem nests_compile (aggregation : Aggregation) (depth : Nat) :
    (aggregation.compile depth).Nests ((aggregation.levels.zipIdx depth).map fun level =>
      (toString level.2, level.1.fragment level.2)) := by
  induction depth, aggregation using compile.induct with
  | case1 depth field maxBuckets =>
      rw [compile_eq]
      exact .outer rfl .nothing
  | case2 depth field maxBuckets child ih =>
      rw [compile_eq]
      exact .outer rfl ih
  | case3 depth field =>
      rw [compile_eq]
      exact .innermost rfl
  | case4 depth field =>
      rw [compile_eq]
      exact .innermost rfl

theorem nested_eq_empty_iff {depth : Nat} {child : Option Aggregation} :
    nested depth child = .obj [] ↔ child = none := by
  cases child with
  | none => simp [nested]
  | some child =>
      rw [nested, compile_eq]
      simp

theorem get?_aggs (level : Aggregation) (depth : Nat) :
    (level.fragment depth).get? "aggs" =
      match level with
      | terms _ _ child => some (nested depth child)
      | _ => none := by
  cases level <;> rfl

theorem aggs_eq_empty_iff (level : Aggregation) (depth : Nat) :
    (level.fragment depth).get? "aggs" = some (.obj []) ↔
      ∃ field maxBuckets, level = terms field maxBuckets none := by
  rw [get?_aggs]
  cases level <;> simp [nested_eq_empty_iff]

theorem aggs_absent_iff (level : Aggregation) (depth : Nat) :
    (level.fragment depth).get? "aggs" = none ↔
      ∃ field, level = sum field ∨ level = cardinality field := by
  rw [get?_aggs]
  cases level <;> simp

/-- Aggregations that are compiled to the same are the same, at the same depth. Going down through
`aggs` meets every level under its own depth, one at a time, and ends with an empty object below a
level that groups, or at a metric. -/
theorem compile_faithful (a b : Aggregation) (d e : Nat) :
    ((a.compile d == b.compile e) = true ↔ (a == b) = true ∧ d = e) ∧
    ((a == b) = true ↔ a = b) ∧
    (∃ body, a.compile d = .obj [(toString d, body)]) ∧
    (∀ met, (a.compile d).Nests met ↔
      met = (a.levels.zipIdx d).map fun level => (toString level.2, level.1.fragment level.2)) ∧
    ∀ (level : Aggregation) (depth : Nat),
      ((level.fragment depth).get? "aggs" = some (.obj []) ↔
        ∃ field maxBuckets, level = terms field maxBuckets none) ∧
      ((level.fragment depth).get? "aggs" = none ↔
        ∃ field, level = sum field ∨ level = cardinality field) := by
  refine ⟨?_, same_iff, ⟨_, a.compile_eq d⟩, fun met => ⟨fun nests => ?_, ?_⟩, ?_⟩
  · rw [same_iff]
    exact compile_beq_iff a b d e
  · exact nests.unique (a.nests_compile d)
  · rintro rfl
    exact a.nests_compile d
  · intro level depth
    exact ⟨level.aggs_eq_empty_iff depth, level.aggs_absent_iff depth⟩

end Aggregation

end DocSearch
