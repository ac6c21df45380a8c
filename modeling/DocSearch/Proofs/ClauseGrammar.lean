import DocSearch.Proofs.ClauseNames

namespace DocSearch

/-! The grammar of clauses. A name is a field with at most one suffix of an operator behind it, and
in one way only; what is left in front of the suffix is the field, even if it ends in a suffix
itself. The field is judged before the value, and each operator takes values of its own form. -/

namespace FieldSet

variable {fields : FieldSet} {name : String}

theorem check_of_mem (declared : name ∈ fields.names) : fields.check name = .ok () := by
  rw [check, if_pos (contains_eq_true.mpr declared)]

theorem check_of_not_mem (undeclared : name ∉ fields.names) :
    fields.check name = .error (.unknownField name) := by
  rw [check, if_neg (mt contains_eq_true.mp undeclared)]

end FieldSet

namespace Clause

/-- The operator asks for a value of another form. -/
inductive Unsuited : Option Operator → Json → Prop where
  | prefixed {value : Json} : (∀ text, value ≠ .str text) → Unsuited (some .prefixed) value
  | regexp {value : Json} : (∀ text, value ≠ .str text) → Unsuited (some .regexp) value
  | contains {value : Json} : (∀ values, value ≠ .arr values) → Unsuited (some .contains) value

/-- The fragment that a field, an operator and a value stand for. -/
inductive Fragment (field : String) : Option Operator → Json → Json → Prop where
  | phrase (value : Json) :
      Fragment field none value (.obj [("match_phrase", .obj [(field, value)])])
  | prefixed (text : String) : Fragment field (some .prefixed) (.str text)
      (.obj [("match_phrase_prefix", .obj [(field, .str text)])])
  | regexp (text : String) :
      Fragment field (some .regexp) (.str text) (.obj [("regexp", .obj [(field, .str text)])])
  | contains (values : List Json) : Fragment field (some .contains) (.arr values)
      (.obj [("bool", .obj [("minimum_should_match", .ofNat 1), ("should", .arr
        (values.map fun value => .obj [("match_phrase", .obj [(field, value)])]))])])
  | gte (value : Json) :
      Fragment field (some .gte) value (.obj [("range", .obj [(field, .obj [("gte", value)])])])
  | gt (value : Json) :
      Fragment field (some .gt) value (.obj [("range", .obj [(field, .obj [("gt", value)])])])
  | lte (value : Json) :
      Fragment field (some .lte) value (.obj [("range", .obj [(field, .obj [("lte", value)])])])
  | lt (value : Json) :
      Fragment field (some .lt) value (.obj [("range", .obj [(field, .obj [("lt", value)])])])

variable {field : String} {value : Json}

theorem Fragment.suited {op : Option Operator} {fragment : Json}
    (stands : Fragment field op value fragment) : ¬ Unsuited op value := by
  intro unsuited
  cases stands with
  | prefixed text | regexp text | contains values =>
      cases unsuited with
      | _ differ => exact differ _ rfl
  | phrase | gte | gt | lte | lt => cases unsuited

theorem Fragment.plain {op : Option Operator} {body : Json}
    (stands : Fragment field op value (.obj [("match_phrase", body)])) : op = none := by
  generalize shape : Json.obj [("match_phrase", body)] = fragment at stands
  cases stands with
  | phrase => rfl
  | prefixed | regexp | contains | gte | gt | lte | lt => simp at shape

/-- What becomes of a clause once its field is found declared. -/
inductive Reads (raw field : String) (op : Option Operator) (value : Json) :
    Except Error Expression → Prop where
  | refused {reason : String} : Unsuited op value →
      Reads raw field op value (.error (.invalidClause raw reason))
  | expression {expression : Expression} : expression.field = field →
      Fragment field op value expression.compile → Reads raw field op value (.ok expression)

theorem reads_build (op : Operator) (field : String) (value : Json) :
    Reads (field ++ op.suffix) field (some op) value (op.build field value) := by
  cases op with
  | prefixed =>
      cases value with
      | str text => exact .expression rfl (.prefixed text)
      | _ => exact .refused (.prefixed fun _ => nofun)
  | regexp =>
      cases value with
      | str text => exact .expression rfl (.regexp text)
      | _ => exact .refused (.regexp fun _ => nofun)
  | contains =>
      cases value with
      | arr values => exact .expression rfl (.contains values)
      | _ => exact .refused (.contains fun _ => nofun)
  | gte => exact .expression rfl (.gte value)
  | gt => exact .expression rfl (.gt value)
  | lte => exact .expression rfl (.lte value)
  | lt => exact .expression rfl (.lt value)

section Parse

variable {fields : FieldSet} {clause : Clause} {op : Option Operator}
  (split : Operator.Splits clause.raw field op)
include split

theorem parse_undeclared (undeclared : field ∉ fields.names) :
    (clause.parse fields).value = .error (.unknownField field) := by
  rw [parse, Operator.splits_iff_split.mp split]
  simp only [FieldSet.check_of_not_mem undeclared]
  rfl

theorem reads_parse (declared : field ∈ fields.names) :
    Reads clause.raw field op clause.value (clause.parse fields).value := by
  rw [parse, Operator.splits_iff_split.mp split]
  simp only [FieldSet.check_of_mem declared]
  cases split with
  | plain => exact .expression rfl (.phrase _)
  | @suffixed _ op shape =>
      rw [shape]
      exact reads_build op field clause.value

theorem parse_unknownField_iff :
    (clause.parse fields).value = .error (.unknownField field) ↔ field ∉ fields.names := by
  refine ⟨fun failed declared => ?_, parse_undeclared split⟩
  have reads := reads_parse split declared
  rw [failed] at reads
  cases reads

theorem parse_phrase_iff (declared : clause.raw ∈ fields.names) :
    (∃ name phrase, (clause.parse fields).value = .ok (.leaf .matchPhrase name phrase)) ↔
      op = none := by
  constructor
  · rintro ⟨name, phrase, read⟩
    by_cases known : field ∈ fields.names
    · have reads := reads_parse split known
      rw [read] at reads
      cases reads with
      | expression _ stands => exact stands.plain
    · rw [parse_undeclared split known] at read
      cases read
  · rintro rfl
    cases split with
    | plain bare =>
        refine ⟨clause.raw, clause.value, ?_⟩
        rw [parse, Operator.splits_iff_split.mp (.plain bare)]
        simp only [FieldSet.check_of_mem declared]
        rfl

end Parse

/-- Reading a clause follows the grammar of clauses. The name has one decomposition; the field in
it decides first, whatever the value is, then the form of the value. A clause that passes both
becomes the fragment of its operator, and a clause on a declared name is a phrase exactly if no
operator can be split off that name. -/
theorem parse_iff_grammar (fields : FieldSet) (clause : Clause) :
    ∃ field op, (∀ base other, Operator.Splits clause.raw base other ↔ base = field ∧ other = op) ∧
      ((clause.parse fields).value = .error (.unknownField field) ↔ field ∉ fields.names) ∧
      (field ∈ fields.names →
        ((∃ reason, (clause.parse fields).value = .error (.invalidClause clause.raw reason)) ↔
          Unsuited op clause.value) ∧
        (¬ Unsuited op clause.value → ∃ expression,
          (clause.parse fields).value = .ok expression ∧ expression.field = field ∧
            Fragment field op clause.value expression.compile)) ∧
      (clause.raw ∈ fields.names →
        ((∃ name phrase, (clause.parse fields).value = .ok (.leaf .matchPhrase name phrase)) ↔
          ∀ base (op : Operator), clause.raw ≠ base ++ op.suffix)) := by
  obtain ⟨field, op, split⟩ : ∃ field op, Operator.Splits clause.raw field op :=
    ⟨_, _, Operator.splits_iff_split.mpr rfl⟩
  refine ⟨field, op, ?decomposition, ?unknown, ?known, ?phrase⟩
  case decomposition =>
    intro base other
    constructor
    · exact split.unique
    · rintro ⟨rfl, rfl⟩
      exact split
  case unknown => exact parse_unknownField_iff split
  case known =>
    intro declared
    have reads := reads_parse split declared
    generalize (clause.parse fields).value = result at reads ⊢
    cases reads with
    | refused unsuited =>
        exact ⟨iff_of_true ⟨_, rfl⟩ unsuited, fun suited => absurd unsuited suited⟩
    | expression same stands =>
        exact ⟨iff_of_false (fun ⟨_, refused⟩ => nomatch refused) stands.suited,
          fun _ => ⟨_, rfl, same, stands⟩⟩
  case phrase =>
    intro declared
    rw [parse_phrase_iff split declared]
    cases split with
    | plain bare => exact iff_of_true rfl bare
    | suffixed shape => exact iff_of_false nofun fun bare => bare _ _ shape

/-- Of two suffixes the last one is the operator, and the first one is part of the field. -/
theorem parse_iff_grammar_stacked :
    let clause : Clause := { raw := "a__gt__gte", value := .ofNat 5 }
    ∃ expression, (clause.parse (.ofList ["a__gt"])).value = .ok expression ∧
      expression.field = "a__gt" ∧ expression.compile =
        .obj [("range", .obj [("a__gt", .obj [("gte", .ofNat 5)])])] := by
  intro clause
  obtain ⟨field, op, unique, -, known, -⟩ := parse_iff_grammar (.ofList ["a__gt"]) clause
  obtain ⟨rfl, rfl⟩ := (unique "a__gt" (some .gte)).mp (.suffixed (by decide))
  obtain ⟨expression, read, same, stands⟩ := (known (by decide)).2 nofun
  refine ⟨expression, read, same, ?_⟩
  generalize expression.compile = fragment at stands ⊢
  cases stands with
  | gte => rfl

end Clause

end DocSearch
