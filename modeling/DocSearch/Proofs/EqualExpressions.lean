import DocSearch.Proofs.Calendar.Days
import DocSearch.Proofs.Calendar.Instants
import DocSearch.Proofs.Fragments

namespace DocSearch

/-! Equal expressions and their fragments. Timestamps are equal at one instant, while their texts
show the time with its offset, so that fragments tell offsets apart. Nothing else in a fragment is
finer than the equality of expressions. -/

namespace Reading

theorem shown_eq_of_text {dt dt' : DateTime} {rest rest' : String}
    (ended : '.' ∉ rest.toList.head?) (ended' : '.' ∉ rest'.toList.head?)
    (same : dt.text ++ rest = dt'.text ++ rest') :
    dt.date = dt'.date ∧ dt.time.shown = dt'.time.shown := by
  have written : ∀ (dt : DateTime) (rest : String), (dt.text ++ rest).toList =
      dt.date.text.toList ++ 'T' :: (dt.time.text.toList ++ rest.toList) := by
    intro dt rest
    simp [DateTime.text]
  have dates : date? (dt.text ++ rest).toList = date? (dt'.text ++ rest').toList := by rw [same]
  rw [written, written, date?_text, date?_text, Option.some.injEq, Prod.mk.injEq,
    List.cons.injEq] at dates
  obtain ⟨date, -, clocks⟩ := dates
  -- What follows a clock has no point, so the fraction of the second ends before it.
  have times := congrArg time? clocks
  rw [time?_text _ ended, time?_text _ ended', Option.some.injEq, Prod.mk.injEq] at times
  exact ⟨date, times.1⟩

end Reading

theorem Timestamp.text_eq_iff {ts ts' : Timestamp} (same : ts.sameInstant ts' = true) :
    ts.text = ts'.text ↔ ts.offset = ts'.offset := by
  constructor
  · intro texts
    obtain ⟨date, shown⟩ := Reading.shown_eq_of_text (Reading.not_point_offsetText ts.offset)
      (Reading.not_point_offsetText ts'.offset) texts
    have seconds : ts.clock.time.secondOfDay = ts'.clock.time.secondOfDay := by
      rw [← TimeOfDay.secondOfDay_shown, shown, TimeOfDay.secondOfDay_shown]
    have second : ts.clock.secondNumber = ts'.clock.secondNumber := by
      rw [DateTime.secondNumber, date, seconds]
      rfl
    have instants : ts.clock.secondNumber - ts.offset = ts'.clock.secondNumber - ts'.offset :=
      congrArg Prod.fst (eq_of_beq same : ts.instant = ts'.instant)
    omega
  · intro offset
    rw [text, text, (clock_eq_iff same).mpr offset, offset]

namespace Bound

/-- The bounds, if they are timestamps, are equally far ahead of universal time. -/
def SameOffset (bound other : Bound) : Prop :=
  ∀ ts ts', bound = .timestamp ts → other = .timestamp ts' → ts.offset = ts'.offset

theorem compile_beq_iff_sameOffset {bound other : Bound} (same : (bound == other) = true) :
    (bound.compile == other.compile) = true ↔ bound.SameOffset other := by
  cases bound with
  | scalar value =>
      cases other with
      | scalar value' => exact iff_of_true same fun _ _ => nofun
      | date | dateTime | timestamp => contradiction
  | date d =>
      cases other with
      | date e =>
          obtain rfl : d = e := eq_of_beq same
          exact iff_of_true (Json.str_beq_iff.mpr rfl) fun _ _ => nofun
      | scalar | dateTime | timestamp => contradiction
  | dateTime t =>
      cases other with
      | dateTime u =>
          obtain rfl : t = u := eq_of_beq same
          exact iff_of_true (Json.str_beq_iff.mpr rfl) fun _ _ => nofun
      | scalar | date | timestamp => contradiction
  | timestamp ts =>
      cases other with
      | timestamp ts' =>
          have texts : (Json.str ts.text == Json.str ts'.text) = true ↔ ts.offset = ts'.offset :=
            Json.str_beq_iff.trans (Timestamp.text_eq_iff same)
          refine texts.trans ⟨?_, fun agree => agree ts ts' rfl rfl⟩
          rintro offset _ _ ⟨⟩ ⟨⟩
          exact offset
      | scalar | date | dateTime => contradiction

end Bound

namespace RangeExpression

structure SameOffsets (range other : RangeExpression) : Prop where
  low : ∀ bound ∈ range.low, ∀ bound' ∈ other.low, bound.SameOffset bound'
  high : ∀ bound ∈ range.high, ∀ bound' ∈ other.high, bound.SameOffset bound'

theorem side_beq_iff_sameOffset {bound bound' : Option Bound} (same : (bound == bound') = true)
    (key : String) (rest rest' : List (String × Json)) :
    (Json.obj (side key bound ++ rest) == Json.obj (side key bound' ++ rest')) = true ↔
      (∀ b ∈ bound, ∀ b' ∈ bound', b.SameOffset b') ∧ (Json.obj rest == Json.obj rest') = true := by
  cases bound with
  | none =>
      cases bound' with
      | none => simp [side]
      | some b' => contradiction
  | some b =>
      cases bound' with
      | none => contradiction
      | some b' => simp [side, Bound.compile_beq_iff_sameOffset same]

theorem compile_beq_iff_sameOffsets {range other : RangeExpression}
    (same : range.same other = true) :
    (range.compile == other.compile) = true ↔ range.SameOffsets other := by
  simp only [RangeExpression.same, Bool.and_eq_true, beq_iff_eq] at same
  obtain ⟨⟨⟨⟨field, low⟩, high⟩, leftOpen⟩, rightOpen⟩ := same
  have upper := side_beq_iff_sameOffset high range.highKey [] []
  rw [List.append_nil, List.append_nil, and_iff_left Json.obj_nil_beq_nil] at upper
  have lower := side_beq_iff_sameOffset low range.lowKey (side range.highKey range.high)
    (side range.highKey other.high)
  have shape : other.sides = side range.lowKey other.low ++ side range.highKey other.high := by
    rw [lowKey_eq_iff.mpr leftOpen, highKey_eq_iff.mpr rightOpen]
    rfl
  have sides : (Json.obj range.sides == Json.obj other.sides) = true ↔ range.SameOffsets other := by
    rw [shape]
    refine (lower.trans (and_congr_right fun _ => upper)).trans ?_
    exact ⟨fun ⟨low, high⟩ => ⟨low, high⟩, fun agree => ⟨agree.low, agree.high⟩⟩
  simp only [compile, Json.obj_cons_beq_cons, Json.obj_nil_beq_nil, and_true, true_and, field, sides]

end RangeExpression

theorem Json.forall₂_of_beq {values others : List Json} (same : (values == others) = true) :
    List.Forall₂ (fun value other => (value == other) = true) values others := by
  induction values generalizing others with
  | nil =>
      cases others with
      | nil => exact .nil
      | cons other rest => contradiction
  | cons value values ih =>
      cases others with
      | nil => contradiction
      | cons other rest =>
          rw [List.cons_beq_cons, Bool.and_eq_true] at same
          exact .cons same.1 (ih same.2)

namespace Expression

def SameOffsets (e f : Expression) : Prop :=
  ∀ interval other, e = .range interval → f = .range other → interval.SameOffsets other

variable {e f : Expression}

/-- Equal expressions have equal fragments if and only if each timestamp of the one has the offset
of its counterpart in the other. -/
theorem same_fragment_iff_sameOffsets (same : (e == f) = true) :
    (e.compile == f.compile) = true ↔ e.SameOffsets f := by
  cases e with
  | leaf kind field value =>
      cases f with
      | leaf kind' field' value' =>
          replace same : (kind == kind' && field == field' && value == value') = true := same
          simp only [Bool.and_eq_true, beq_iff_eq] at same
          obtain ⟨⟨kinds, fields⟩, values⟩ := same
          exact iff_of_true (compileLeaf_beq_iff.mpr ⟨kinds, fields, values⟩) fun _ _ => nofun
      | range | contains => contradiction
  | range interval =>
      cases f with
      | range other =>
          refine (RangeExpression.compile_beq_iff_sameOffsets same).trans
            ⟨?_, fun agree => agree interval other rfl rfl⟩
          rintro agree _ _ ⟨⟩ ⟨⟩
          exact agree
      | leaf | contains => contradiction
  | contains field values minMatch =>
      cases f with
      | contains field' others minMatch' =>
          replace same : (field == field' && values == others && minMatch == minMatch') = true :=
            same
          simp only [Bool.and_eq_true, beq_iff_eq] at same
          obtain ⟨⟨fields, each⟩, counts⟩ := same
          exact iff_of_true
            (contains_beq_iff.mpr ⟨counts, fun _ _ => fields, Json.forall₂_of_beq each⟩)
            fun _ _ => nofun
      | leaf | range => contradiction

def morning (hour : Nat) (offset : Int) (hour_lt : hour < 24)
    (offset_mem : -86400 < offset ∧ offset < 86400) : Timestamp where
  clock := ⟨⟨2024, 3, 9, by decide, by decide⟩,
    ⟨hour, 5, 30, 0, hour_lt, by decide, by decide, .inl (by decide)⟩⟩
  offset := offset
  offset_mem := offset_mem

/-- The two zeros are equal numbers, with equal fragments. -/
theorem same_fragment_iff_sameOffsets_zeros :
    let upTo := fun bits : UInt64 => Expression.range
      { field := "at"
        low := some (.timestamp (morning 7 3600 (by decide) (by decide)))
        high := some (.scalar (.num (.double ⟨bits⟩))) }
    (upTo 0 == upTo 0x8000000000000000) = true ∧
      ((upTo 0).compile == (upTo 0x8000000000000000).compile) = true := by
  intro upTo
  have same : (upTo 0 == upTo 0x8000000000000000) = true := by decide +kernel
  refine ⟨same, (same_fragment_iff_sameOffsets same).mpr ?_⟩
  rintro _ _ ⟨⟩ ⟨⟩
  refine ⟨?_, ?_⟩
  · rintro _ ⟨⟩ _ ⟨⟩ _ _ ⟨⟩ ⟨⟩
    rfl
  · rintro _ ⟨⟩ _ ⟨⟩ _ _ ⟨⟩

/-- One instant, written with universal time and nine hours ahead of it. -/
theorem equal_expressions_written_apart :
    let since := fun ts : Timestamp => Expression.range (.atLeast "at" (.timestamp ts))
    let utc := morning 7 0 (by decide) (by decide)
    let east := morning 16 32400 (by decide) (by decide)
    (since utc == since east) = true ∧
      ((since utc).compile == (since east).compile) = false ∧
      utc.text = "2024-03-09T07:05:30+00:00" ∧ east.text = "2024-03-09T16:05:30+09:00" := by
  decide +kernel

end Expression

end DocSearch
