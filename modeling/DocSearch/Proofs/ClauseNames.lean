import DocSearch.Clause

namespace DocSearch.Operator

/-! The names of clauses. A name has one decomposition into a field and a suffix of an operator.
Suffixes are tried in turn, and the first one that ends a name is the only one that does, so what a
search over some operators finds is told by which operators they are, and not by their order. -/

/-- The ways to take a clause name apart. -/
inductive Splits (raw : String) : String → Option Operator → Prop where
  | suffixed {field : String} {op : Operator} :
      raw = field ++ op.suffix → Splits raw field (some op)
  | plain : (∀ field (op : Operator), raw ≠ field ++ op.suffix) → Splits raw raw none

def Ends (op : Operator) (raw : String) : Prop := op.suffix.toList <:+ raw.toList

instance (op : Operator) (raw : String) : Decidable (op.Ends raw) :=
  inferInstanceAs (Decidable (_ <:+ _))

theorem dropEnding?_eq_some_iff {text ending field : String} :
    dropEnding? text ending = some field ↔ text = field ++ ending := by
  rw [dropEnding?]
  constructor
  · intro dropped
    split at dropped
    · rename_i ends
      obtain ⟨front, shape⟩ := List.isSuffixOf_iff_suffix.mp ends
      simp only [← shape, Option.some.injEq] at dropped
      rw [← String.toList_inj, ← shape, String.toList_append, ← dropped]
      simp
    · contradiction
  · rintro rfl
    have ends : ending.toList.isSuffixOf (field ++ ending).toList = true := by
      rw [List.isSuffixOf_iff_suffix, String.toList_append]
      exact List.suffix_append _ _
    rw [if_pos ends]
    simp

/-- No suffix ends in another one. -/
theorem eq_of_suffix_isSuffix {op other : Operator}
    (ends : op.suffix.toList <:+ other.suffix.toList) : op = other := by
  revert ends
  cases op <;> cases other <;> decide

theorem eq_of_append_suffix {field base : String} {op other : Operator}
    (same : field ++ op.suffix = base ++ other.suffix) : field = base ∧ op = other := by
  have listed : field.toList ++ op.suffix.toList = base.toList ++ other.suffix.toList := by
    rw [← String.toList_append, same, String.toList_append]
  have first : op.suffix.toList <:+ base.toList ++ other.suffix.toList := ⟨_, listed⟩
  -- Both suffixes end one text, so one of them ends in the other.
  have ops : op = other := by
    rcases List.suffix_or_suffix_of_suffix first (List.suffix_append _ _) with ends | ends
    · exact eq_of_suffix_isSuffix ends
    · exact (eq_of_suffix_isSuffix ends).symm
  subst ops
  exact ⟨String.toList_inj.mp (List.append_cancel_right listed), rfl⟩

variable {op other : Operator} {order : List Operator} {raw field : String}

theorem ends_iff_append : op.Ends raw ↔ ∃ field, field ++ op.suffix = raw := by
  constructor
  · rintro ⟨front, shape⟩
    refine ⟨String.ofList front, String.toList_inj.mp ?_⟩
    rw [String.toList_append, String.toList_ofList, shape]
  · rintro ⟨field, rfl⟩
    rw [Ends, String.toList_append]
    exact List.suffix_append _ _

theorem Ends.unique (ends : op.Ends raw) (endsToo : other.Ends raw) : op = other := by
  obtain ⟨field, shape⟩ := ends_iff_append.mp ends
  obtain ⟨base, shape'⟩ := ends_iff_append.mp endsToo
  exact (eq_of_append_suffix (shape.trans shape'.symm)).2

theorem splitBy_cons_append (op : Operator) (order : List Operator) (field : String) :
    splitBy (op :: order) (field ++ op.suffix) = (field, some op) := by
  have dropped : dropEnding? (field ++ op.suffix) op.suffix = some field :=
    dropEnding?_eq_some_iff.mpr rfl
  simp only [splitBy, List.findSome?_cons, dropped, Option.map_some]

theorem splitBy_cons_of_not_ends (bare : ¬ op.Ends raw) :
    splitBy (op :: order) raw = splitBy order raw := by
  have kept : dropEnding? raw op.suffix = none := by
    cases dropped : dropEnding? raw op.suffix with
    | none => rfl
    | some field =>
        have shape := dropEnding?_eq_some_iff.mp dropped
        exact absurd (ends_iff_append.mpr ⟨field, shape.symm⟩) bare
  simp only [splitBy, List.findSome?_cons, kept, Option.map_none]

theorem splitBy_append (tried : op ∈ order) (field : String) :
    splitBy order (field ++ op.suffix) = (field, some op) := by
  induction order with
  | nil => contradiction
  | cons first rest ih =>
      by_cases same : first = op
      · subst same
        exact splitBy_cons_append first rest field
      · -- Another operator tried before cannot take the name, or it would be the same one.
        have own : op.Ends (field ++ op.suffix) := ends_iff_append.mpr ⟨field, rfl⟩
        have passed : ¬ first.Ends (field ++ op.suffix) := fun ends => same (ends.unique own)
        rw [splitBy_cons_of_not_ends passed]
        rcases List.mem_cons.mp tried with here | later
        · exact absurd here.symm same
        · exact ih later

theorem splitBy_of_bare (bare : ∀ op ∈ order, ¬ op.Ends raw) : splitBy order raw = (raw, none) := by
  induction order with
  | nil => rfl
  | cons first rest ih =>
      rw [splitBy_cons_of_not_ends (bare first (by simp))]
      exact ih fun op tried => bare op (by simp [tried])

theorem splitBy_eq_some_iff :
    splitBy order raw = (field, some op) ↔ op ∈ order ∧ field ++ op.suffix = raw := by
  constructor
  · intro found
    by_cases ended : ∃ taken ∈ order, taken.Ends raw
    · obtain ⟨taken, tried, ends⟩ := ended
      obtain ⟨base, shape⟩ := ends_iff_append.mp ends
      rw [← shape, splitBy_append tried base] at found
      cases found
      exact ⟨tried, shape⟩
    · rw [splitBy_of_bare fun op tried ends => ended ⟨op, tried, ends⟩] at found
      cases found
  · rintro ⟨tried, rfl⟩
    exact splitBy_append tried field

theorem splitBy_eq_none_iff :
    splitBy order raw = (raw, none) ↔ ∀ op ∈ order, ¬ op.Ends raw := by
  refine ⟨fun absent op tried ends => ?_, splitBy_of_bare⟩
  obtain ⟨field, rfl⟩ := ends_iff_append.mp ends
  rw [splitBy_append tried field] at absent
  simp at absent

theorem mem_all (op : Operator) : op ∈ all := by cases op <;> decide

section Decomposition

variable {raw field base : String} {op other : Option Operator}

theorem Splits.unique (split : Splits raw field op) (another : Splits raw base other) :
    base = field ∧ other = op := by
  cases split with
  | suffixed shape =>
      cases another with
      | suffixed shape' =>
          obtain ⟨fields, ops⟩ := eq_of_append_suffix (shape'.symm.trans shape)
          exact ⟨fields, congrArg some ops⟩
      | plain bare => exact absurd shape (bare _ _)
  | plain bare =>
      cases another with
      | suffixed shape => exact absurd shape (bare _ _)
      | plain _ => exact ⟨rfl, rfl⟩

/-- As long as every operator is tried, the order does not matter. -/
theorem splits_splitBy {order : List Operator} (complete : ∀ op, op ∈ order) (raw : String) :
    Splits raw (splitBy order raw).1 (splitBy order raw).2 := by
  by_cases ended : ∃ op : Operator, op.Ends raw
  · obtain ⟨op, ends⟩ := ended
    obtain ⟨field, rfl⟩ := ends_iff_append.mp ends
    rw [splitBy_append (complete op) field]
    exact .suffixed rfl
  · have bare : ∀ op : Operator, ¬ op.Ends raw := not_exists.mp ended
    rw [splitBy_of_bare fun op _ => bare op]
    exact .plain fun field op shape => bare op (ends_iff_append.mpr ⟨field, shape.symm⟩)

theorem splits_iff_split : Splits raw field op ↔ split raw = (field, op) := by
  have own : Splits raw (split raw).1 (split raw).2 := splits_splitBy mem_all raw
  constructor
  · intro splits
    obtain ⟨fields, ops⟩ := own.unique splits
    rw [fields, ops]
  · intro same
    rwa [same] at own

end Decomposition

/-- An order serves like the given one exactly if it leaves no operator out. -/
theorem splitBy_eq_split_iff : (∀ raw, splitBy order raw = split raw) ↔ ∀ op, op ∈ order := by
  constructor
  · intro alike op
    have found : splitBy order ("" ++ op.suffix) = ("", some op) :=
      (alike _).trans (splitBy_append (mem_all op) "")
    exact (splitBy_eq_some_iff.mp found).1
  · intro complete raw
    exact (splits_iff_split.mp (splits_splitBy complete raw)).symm

/-- A field followed by a suffix is split into just these two, and a name that ends in no suffix
stays whole. There is no name that ends in two suffixes, so the operators may be tried in any
order. -/
theorem split_undoes_append :
    (∀ field (op : Operator), split (field ++ op.suffix) = (field, some op)) ∧
    (∀ raw, (split raw = (raw, none) ↔ ∀ op : Operator, ¬ op.Ends raw) ∧
      (split raw ≠ (raw, none) →
        ∃ field op, split raw = (field, some op) ∧ field ++ op.suffix = raw)) ∧
    (∀ raw (op other : Operator), op.Ends raw → other.Ends raw → op = other) ∧
    ∀ order : List Operator, order.Perm all → ∀ raw, splitBy order raw = split raw := by
  have bare_iff (raw : String) : split raw = (raw, none) ↔ ∀ op : Operator, ¬ op.Ends raw := by
    rw [split, splitBy_eq_none_iff]
    exact ⟨fun bare op => bare op (mem_all op), fun bare op _ => bare op⟩
  refine ⟨fun field op => splitBy_append (mem_all op) field, fun raw => ⟨bare_iff raw, ?suffixed⟩,
    fun raw op other ends endsToo => ends.unique endsToo, ?reordered⟩
  case suffixed =>
    intro cut
    obtain ⟨op, ends⟩ : ∃ op : Operator, op.Ends raw := by
      simpa only [Ne, bare_iff, Classical.not_forall, Classical.not_not] using cut
    obtain ⟨field, shape⟩ := ends_iff_append.mp ends
    exact ⟨field, op, splitBy_eq_some_iff.mpr ⟨mem_all op, shape⟩, shape⟩
  case reordered =>
    intro order reordered
    exact splitBy_eq_split_iff.mpr fun op => reordered.mem_iff.mpr (mem_all op)

/-- Backwards, `__gt` is tried on the name before `__gte` is. -/
theorem split_undoes_append_backwards :
    let raw := "a__gt__gte"
    gte.Ends raw ∧ (∀ op : Operator, op.Ends raw → op = gte) ∧
      split raw ≠ (raw, none) ∧ split raw = ("a__gt", some gte) ∧ "a__gt" ++ gte.suffix = raw ∧
      all.reverse.Perm all ∧ splitBy all.reverse raw = ("a__gt", some gte) := by
  intro raw
  obtain ⟨undone, whole, unique, reordered⟩ := split_undoes_append
  have ends : gte.Ends raw := by decide
  have parts : split raw = ("a__gt", some gte) := undone "a__gt" gte
  have cut : split raw ≠ (raw, none) := fun kept => (whole raw).1.mp kept gte ends
  obtain ⟨field, op, found, shape⟩ := (whole raw).2 cut
  rw [parts] at found
  cases found
  have backwards : all.reverse.Perm all := List.reverse_perm all
  exact ⟨ends, fun op endsToo => unique raw op gte endsToo ends, cut, parts, shape, backwards,
    (reordered all.reverse backwards raw).trans parts⟩

end DocSearch.Operator
