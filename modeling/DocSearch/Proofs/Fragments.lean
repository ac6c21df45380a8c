import DocSearch.Expression
import DocSearch.Proofs.Json

namespace DocSearch

/-! Expressions that are compiled to the same fragment are the same, but for what a fragment has no
place for: whether a side of a range is open when there is no such side, and the field of a choice
between no values. -/

theorem LeafKind.key_inj {kind other : LeafKind} : kind.key = other.key ↔ kind = other := by
  cases kind <;> cases other <;> decide

theorem LeafKind.key_apart (kind : LeafKind) : kind.key ≠ "range" ∧ kind.key ≠ "bool" := by
  cases kind <;> decide

namespace RangeExpression

/-- Sides of two ranges, each with its flag. Where there is no side the flag says nothing. -/
inductive SideAlike : Option Bound → Bool → Option Bound → Bool → Prop where
  | absent (isOpen other : Bool) : SideAlike none isOpen none other
  | present {bound other : Bound} {isOpen : Bool} : (bound == other) = true →
      SideAlike (some bound) isOpen (some other) isOpen

def side (key : String) (bound : Option Bound) : List (String × Json) :=
  (bound.map fun bound => (key, bound.compile)).toList

variable {range other : RangeExpression}

theorem lowKey_eq_iff : range.lowKey = other.lowKey ↔ range.leftOpen = other.leftOpen := by
  unfold lowKey
  cases range.leftOpen <;> cases other.leftOpen <;> decide

theorem highKey_eq_iff : range.highKey = other.highKey ↔ range.rightOpen = other.rightOpen := by
  unfold highKey
  cases range.rightOpen <;> cases other.rightOpen <;> decide

theorem highKey_ne_lowKey : range.highKey ≠ other.lowKey := by
  unfold highKey lowKey
  cases range.rightOpen <;> cases other.leftOpen <;> decide

theorem not_highKey_lt_lowKey : ¬ range.highKey < other.lowKey := by
  unfold highKey lowKey
  cases range.rightOpen <;> cases other.leftOpen <;> decide

/-- Sides that are put into an object one after the other are both there, in the order of their
operators. -/
theorem object_sides (range : RangeExpression) : Json.object range.sides = .obj range.sides := by
  have apart : range.highKey ≠ range.lowKey := highKey_ne_lowKey
  have order : ¬ range.highKey < range.lowKey := not_highKey_lt_lowKey
  unfold sides
  cases range.low with
  | none => cases range.high <;> rfl
  | some low =>
      cases range.high with
      | none => rfl
      | some high => simp [Json.object, Json.insertMember, apart, order]

def Plain (range : RangeExpression) : Prop :=
  ∀ bound ∈ range.low.toList ++ range.high.toList, ∃ value, bound = .scalar value

theorem compile_beq_compile {bound other : Bound} (plain : ∃ value, bound = .scalar value)
    (plain' : ∃ value, other = .scalar value) :
    (bound.compile == other.compile) = (bound == other) := by
  obtain ⟨value, rfl⟩ := plain
  obtain ⟨value', rfl⟩ := plain'
  rfl

theorem side_beq_iff {bound bound' : Option Bound} {key key' : String} {isOpen isOpen' : Bool}
    {rest rest' : List (String × Json)} (keys : key = key' ↔ isOpen = isOpen')
    (plain : ∀ b ∈ bound, ∃ value, b = .scalar value)
    (plain' : ∀ b ∈ bound', ∃ value, b = .scalar value)
    (apart : ∀ member ∈ rest, member.1 ≠ key') (apart' : ∀ member ∈ rest', member.1 ≠ key) :
    (Json.obj (side key bound ++ rest) == Json.obj (side key' bound' ++ rest')) = true ↔
      SideAlike bound isOpen bound' isOpen' ∧ (Json.obj rest == Json.obj rest') = true := by
  cases bound with
  | none =>
      cases bound' with
      | none => exact ⟨fun same => ⟨.absent _ _, same⟩, fun same => same.2⟩
      | some b' =>
          refine ⟨fun same => ?_, nofun⟩
          -- That side would have to be among the other members.
          obtain ⟨member, listed, named⟩ := Json.exists_of_obj_beq_cons same
          exact absurd named (apart member listed)
  | some b =>
      cases bound' with
      | none =>
          refine ⟨fun same => ?_, nofun⟩
          obtain ⟨member, listed, named⟩ := Json.exists_of_obj_cons_beq same
          exact absurd named (apart' member listed)
      | some b' =>
          have bounds := compile_beq_compile (plain b rfl) (plain' b' rfl)
          simp only [side, Option.map_some, Option.toList_some, List.cons_append, List.nil_append,
            Json.obj_cons_beq_cons, keys, bounds]
          constructor
          · rintro ⟨rfl, same, others⟩
            exact ⟨.present same, others⟩
          · rintro ⟨alike, others⟩
            cases alike with
            | present same => exact ⟨rfl, same, others⟩

theorem mem_side {key : String} {bound : Option Bound} {member : String × Json}
    (listed : member ∈ side key bound) : member.1 = key := by
  cases bound with
  | none => contradiction
  | some bound =>
      obtain rfl := List.mem_singleton.mp listed
      rfl

theorem sides_beq_iff (plain : range.Plain) (plain' : other.Plain) :
    (Json.obj range.sides == Json.obj other.sides) = true ↔
      SideAlike range.low range.leftOpen other.low other.leftOpen ∧
      SideAlike range.high range.rightOpen other.high other.rightOpen := by
  have low : ∀ {range : RangeExpression}, range.Plain →
      ∀ bound ∈ range.low, ∃ value, bound = .scalar value :=
    fun plain bound member => plain bound (by simp [Option.mem_def.mp member])
  have high : ∀ {range : RangeExpression}, range.Plain →
      ∀ bound ∈ range.high, ∃ value, bound = .scalar value :=
    fun plain bound member => plain bound (by simp [Option.mem_def.mp member])
  have apart : ∀ range other : RangeExpression,
      ∀ member ∈ side range.highKey range.high, member.1 ≠ other.lowKey := by
    intro range other member listed
    rw [mem_side listed]
    exact highKey_ne_lowKey
  have lower := side_beq_iff lowKey_eq_iff (low plain) (low plain') (apart range other)
    (apart other range)
  have nothing : ∀ key : String, ∀ member ∈ ([] : List (String × Json)), member.1 ≠ key := nofun
  have upper := side_beq_iff (highKey_eq_iff : range.highKey = other.highKey ↔ _) (high plain)
    (high plain') (nothing _) (nothing _)
  rw [List.append_nil, List.append_nil, Json.obj_nil_beq_nil, and_iff_left rfl] at upper
  exact lower.trans (and_congr_right fun _ => upper)

theorem compile_beq_iff (plain : range.Plain) (plain' : other.Plain) :
    (range.compile == other.compile) = true ↔ range.field = other.field ∧
      SideAlike range.low range.leftOpen other.low other.leftOpen ∧
      SideAlike range.high range.rightOpen other.high other.rightOpen := by
  simp only [compile, Json.obj_cons_beq_cons, Json.obj_nil_beq_nil, and_true, true_and,
    sides_beq_iff plain plain']

end RangeExpression

namespace Expression

open RangeExpression (SideAlike)

/-- The expressions are equal up to what their fragments do not tell. -/
inductive Alike : Expression → Expression → Prop where
  | leaf {kind : LeafKind} {field : String} {value other : Json} : (value == other) = true →
      Alike (.leaf kind field value) (.leaf kind field other)
  | range {range other : RangeExpression} : range.field = other.field →
      SideAlike range.low range.leftOpen other.low other.leftOpen →
      SideAlike range.high range.rightOpen other.high other.rightOpen →
      Alike (.range range) (.range other)
  | contains {field : String} {values others : List Json} {minMatch : Nat} :
      List.Forall₂ (fun value other => (value == other) = true) values others →
      Alike (.contains field values minMatch) (.contains field others minMatch)
  | nothing {field other : String} {minMatch : Nat} :
      Alike (.contains field [] minMatch) (.contains other [] minMatch)

/-- The bounds of the expression, if it is a range, are plain values. -/
def Plain : Expression → Prop
  | .range interval => interval.Plain
  | _ => True

theorem compileLeaf_beq_iff {kind kind' : LeafKind} {field field' : String} {value value' : Json} :
    (compileLeaf kind field value == compileLeaf kind' field' value') = true ↔
      kind = kind' ∧ field = field' ∧ (value == value') = true := by
  simp only [compileLeaf, Json.obj_cons_beq_cons, Json.obj_nil_beq_nil, and_true, LeafKind.key_inj]

theorem contains_beq_iff {field field' : String} {values others : List Json}
    {minMatch minMatch' : Nat} :
    ((contains field values minMatch).compile == (contains field' others minMatch').compile) = true ↔
      minMatch = minMatch' ∧ (∀ value ∈ values, field = field') ∧
        List.Forall₂ (fun value other => (value == other) = true) values others := by
  simp only [compile, Json.obj_cons_beq_cons, Json.obj_nil_beq_nil, and_true, true_and,
    Json.ofNat_beq_iff, Json.arr_beq_iff, List.forall₂_map_left_iff, List.forall₂_map_right_iff,
    compileLeaf_beq_iff, List.forall₂_and_left]

theorem contains_beq_iff_alike {field field' : String} {values others : List Json}
    {minMatch minMatch' : Nat} :
    ((contains field values minMatch).compile == (contains field' others minMatch').compile) = true ↔
      Alike (.contains field values minMatch) (.contains field' others minMatch') := by
  rw [contains_beq_iff]
  constructor
  · rintro ⟨rfl, fields, same⟩
    cases same with
    | nil => exact .nothing
    | cons first rest =>
        obtain rfl := fields _ (List.mem_cons_self ..)
        exact .contains (.cons first rest)
  · intro alike
    cases alike with
    | contains same => exact ⟨rfl, fun _ _ => rfl, same⟩
    | nothing => exact ⟨rfl, nofun, .nil⟩

def key : Expression → String
  | .leaf kind _ _ => kind.key
  | .range _ => "range"
  | .contains _ _ _ => "bool"

theorem key_eq_of_beq {e f : Expression} (same : (e.compile == f.compile) = true) :
    e.key = f.key := by
  have member : ∀ e : Expression, ∃ body, e.compile = .obj [(e.key, body)] := by
    intro e
    cases e <;> exact ⟨_, rfl⟩
  obtain ⟨body, shape⟩ := member e
  obtain ⟨body', shape'⟩ := member f
  rw [shape, shape'] at same
  exact (Json.obj_cons_beq_cons.mp same).1

theorem compile_beq_iff {e f : Expression} (plain : e.Plain) (plain' : f.Plain) :
    (e.compile == f.compile) = true ↔ Alike e f := by
  constructor
  · intro same
    have keys := key_eq_of_beq same
    cases e with
    | leaf kind field value =>
        cases f with
        | leaf kind' field' value' =>
            obtain ⟨rfl, rfl, values⟩ := compileLeaf_beq_iff.mp same
            exact .leaf values
        | range other => exact absurd keys (LeafKind.key_apart kind).1
        | contains other others minMatch => exact absurd keys (LeafKind.key_apart kind).2
    | range interval =>
        cases f with
        | leaf kind field value => exact absurd keys.symm (LeafKind.key_apart kind).1
        | range other =>
            obtain ⟨field, low, high⟩ := (RangeExpression.compile_beq_iff plain plain').mp same
            exact .range field low high
        | contains other others minMatch =>
            exact absurd (show "range" = "bool" from keys) (by decide)
    | contains field values minMatch =>
        cases f with
        | leaf kind other value => exact absurd keys.symm (LeafKind.key_apart kind).2
        | range other => exact absurd (show "bool" = "range" from keys) (by decide)
        | contains other others minMatch' => exact contains_beq_iff_alike.mp same
  · intro alike
    cases alike with
    | leaf same => exact compileLeaf_beq_iff.mpr ⟨rfl, rfl, same⟩
    | range field low high =>
        exact (RangeExpression.compile_beq_iff plain plain').mpr ⟨field, low, high⟩
    | contains same => exact contains_beq_iff_alike.mpr (.contains same)
    | nothing => exact contains_beq_iff_alike.mpr .nothing

/-- Two fragments are equal exactly when their expressions are alike. No side of a range displaces
the other one, and a choice is never a phrase, even when there is one value to choose. -/
theorem same_fragment_iff_alike {e f : Expression} (plain : e.Plain) (plain' : f.Plain) :
    ((e.compile == f.compile) = true ↔ Alike e f) ∧
      (∀ interval : RangeExpression, Json.object interval.sides = .obj interval.sides) ∧
      ∀ (field other : String) (value asked : Json) (minMatch : Nat) (kind : LeafKind),
        ((contains field [value] minMatch).compile == (leaf kind other asked).compile) = false := by
  refine ⟨compile_beq_iff plain plain', RangeExpression.object_sides, ?_⟩
  intro field other value asked minMatch kind
  rw [Bool.eq_false_iff]
  intro same
  have keys : "bool" = kind.key := key_eq_of_beq same
  exact kind.key_apart.2 keys.symm

def upToThirty (leftOpen rightOpen : Bool) : Expression :=
  .range { field := "age", high := some (.scalar (.ofNat 30)), leftOpen, rightOpen }

theorem upToThirty_plain (leftOpen rightOpen : Bool) : (upToThirty leftOpen rightOpen).Plain := by
  intro bound listed
  exact ⟨_, List.mem_singleton.mp listed⟩

/-- That a lower side would be open is forgotten where there is none. The flag of the upper side
counts, since that side is there. -/
theorem same_fragment_upToThirty :
    ((upToThirty true false).Plain ∧ (upToThirty false true).Plain ∧
        (upToThirty false false).Plain) ∧
      ((upToThirty true false).compile == (upToThirty false false).compile) = true ∧
      ((upToThirty false true).compile == (upToThirty false false).compile) = false := by
  refine ⟨⟨upToThirty_plain _ _, upToThirty_plain _ _, upToThirty_plain _ _⟩, ?_, ?_⟩
  · have upper : (Json.ofNat 30 == Json.ofNat 30) = true := Json.ofNat_beq_iff.mpr rfl
    exact (same_fragment_iff_alike (upToThirty_plain _ _) (upToThirty_plain _ _)).1.mpr
      (.range rfl (.absent true false) (.present upper))
  · rw [Bool.eq_false_iff]
    intro same
    have alike := (same_fragment_iff_alike (upToThirty_plain _ _) (upToThirty_plain _ _)).1.mp same
    cases alike with
    | range _ _ upper => cases upper

end Expression

end DocSearch
