import DocSearch.Proofs.Building
import DocSearch.Proofs.ClauseGrammar

namespace DocSearch

/-! The log of clauses. A clause is logged once its field is found declared, whether its value suits
the operator or not. Reading stops at the first clause that has no expression, so that the log tells
how far it got. -/

namespace Clause

/-- The event that tells how the name of a clause was taken apart. -/
inductive Announces (clause : Clause) : Event → Prop where
  | operator {field : String} {op : Operator} : Operator.Splits clause.raw field (some op) →
      Announces clause (.operatorClause field clause.raw op.suffix)
  | phrase {field : String} : Operator.Splits clause.raw field none →
      Announces clause (.phraseClause field)

def ReadAs (fields : FieldSet) (clause : Clause) (expression : Expression) : Prop :=
  (clause.parse fields).value = .ok expression

inductive Parses (clause : Clause) : Except Error Expression → List Event → Prop where
  | unknown (field : String) : Parses clause (.error (.unknownField field)) []
  | invalid (field reason : String) {event : Event} : Announces clause event →
      Parses clause (.error (.invalidClause field reason)) [event]
  | expression (expression : Expression) {event : Event} : Announces clause event →
      Parses clause (.ok expression) [event]

/-- What clauses come to and what is logged of them, each event in the place of its clause. -/
inductive ParsesAll (fields : FieldSet) (clauses : List Clause) :
    Except Error (List Expression) → List Event → Prop where
  | expressions {expressions : List Expression} {events : List Event} :
      List.Forall₂ (ReadAs fields) clauses expressions → List.Forall₂ Announces clauses events →
      ParsesAll fields clauses (.ok expressions) events
  | unknown {before after : List Clause} {bad : Clause} {field : String} {events : List Event} :
      clauses = before ++ bad :: after →
      (∀ clause ∈ before, ∃ expression, ReadAs fields clause expression) →
      (bad.parse fields).value = .error (.unknownField field) →
      List.Forall₂ Announces before events →
      ParsesAll fields clauses (.error (.unknownField field)) events
  | invalid {before after : List Clause} {bad : Clause} {field reason : String}
      {events : List Event} : clauses = before ++ bad :: after →
      (∀ clause ∈ before, ∃ expression, ReadAs fields clause expression) →
      (bad.parse fields).value = .error (.invalidClause field reason) →
      List.Forall₂ Announces (before ++ [bad]) events →
      ParsesAll fields clauses (.error (.invalidClause field reason)) events

variable {fields : FieldSet}

theorem Announces.level {clause : Clause} {event : Event} (announces : Announces clause event) :
    event.level = .debug := by
  cases announces <;> rfl

theorem announces_of_declared {clause : Clause} {field : String} {op : Option Operator}
    (split : Operator.Splits clause.raw field op) (declared : field ∈ fields.names) :
    ∃ event, (clause.parse fields).events = [event] ∧ Announces clause event := by
  rw [parse, Operator.splits_iff_split.mp split]
  simp only [FieldSet.check_of_mem declared]
  cases op with
  | none => exact ⟨_, rfl, .phrase split⟩
  | some op => exact ⟨_, rfl, .operator split⟩

theorem events_of_undeclared {clause : Clause} {field : String} {op : Option Operator}
    (split : Operator.Splits clause.raw field op) (undeclared : field ∉ fields.names) :
    (clause.parse fields).events = [] := by
  rw [parse, Operator.splits_iff_split.mp split]
  simp only [FieldSet.check_of_not_mem undeclared]
  rfl

theorem parses_parse (fields : FieldSet) (clause : Clause) :
    Parses clause (clause.parse fields).value (clause.parse fields).events := by
  have split := Operator.splits_iff_split.mpr (rfl : Operator.split clause.raw = _)
  by_cases declared : (Operator.split clause.raw).1 ∈ fields.names
  · -- There is an event before the value is looked at, so a value at fault does not prevent it.
    obtain ⟨event, logged, announces⟩ := announces_of_declared split declared
    have reads := reads_parse split declared
    rw [logged]
    generalize (clause.parse fields).value = result at reads
    cases reads with
    | refused unsuited => exact .invalid _ _ announces
    | expression _ _ => exact .expression _ announces
  · rw [parse_undeclared split declared, events_of_undeclared split declared]
    exact .unknown _

theorem ParsesAll.cons {clause : Clause} {rest : List Clause} {expression : Expression}
    {event : Event} {result : Except Error (List Expression)} {events : List Event}
    (read : ReadAs fields clause expression) (announces : Announces clause event)
    (others : ParsesAll fields rest result events) :
    ParsesAll fields (clause :: rest) (result.map (expression :: ·)) (event :: events) := by
  have sound : ∀ before : List Clause,
      (∀ other ∈ before, ∃ expression, ReadAs fields other expression) →
      ∀ other ∈ clause :: before, ∃ expression, ReadAs fields other expression :=
    fun before each => List.forall_mem_cons.mpr ⟨⟨expression, read⟩, each⟩
  cases others with
  | expressions each logged => exact .expressions (.cons read each) (.cons announces logged)
  | unknown shape each failed logged =>
      exact .unknown (congrArg (clause :: ·) shape) (sound _ each) failed (.cons announces logged)
  | invalid shape each failed logged =>
      exact .invalid (congrArg (clause :: ·) shape) (sound _ each) failed (.cons announces logged)

theorem parsesAll_parseAll (fields : FieldSet) (clauses : List Clause) :
    ParsesAll fields clauses (parseAll fields clauses).value (parseAll fields clauses).events := by
  induction clauses with
  | nil => exact .expressions .nil .nil
  | cons clause rest ih =>
      have first := parses_parse fields clause
      have none : ∀ other ∈ ([] : List Clause), ∃ expression, ReadAs fields other expression := nofun
      rw [parseAll, Logged.value_bind, Logged.events_bind]
      generalize logged : (clause.parse fields).events = events at first
      cases parsed : (clause.parse fields).value with
      | error e =>
          rw [parsed] at first
          cases first with
          | unknown field => exact .unknown rfl none parsed .nil
          | invalid field reason announces =>
              exact .invalid rfl none parsed (.cons announces .nil)
      | ok expression =>
          rw [parsed] at first
          cases first with
          | expression _ announces => exact .cons parsed announces ih

/-- Clauses are read in order up to the first one that has no expression, and its error is the one
of all. Each clause read is logged, and so is the one that fails if its value is at fault, but not
if its field is unknown; the clauses after it are not. A call on a query logs the same, also when it
is refused and the query stays as it was. -/
theorem parseAll_logs (query : Query) (occur : Occur) (positional : List Expression)
    (clauses : List Clause) :
    let parsed := parseAll query.fields clauses
    let call := query.add occur positional clauses
    ((∃ expressions, parsed.value = .ok expressions) ↔
      ∀ clause ∈ clauses, ∃ expression, ReadAs query.fields clause expression) ∧
    ParsesAll query.fields clauses parsed.value parsed.events ∧
    (∀ event ∈ parsed.events, event.level = .debug) ∧
    call.events = parsed.events ∧
    ∀ e, parsed.value = .error e → call.value = .error e ∧
      query.after (.add occur positional clauses) = query := by
  intro parsed call
  have parses : ParsesAll query.fields clauses parsed.value parsed.events :=
    parsesAll_parseAll query.fields clauses
  refine ⟨exists_parseAll_ok_iff, parses, ?level, rfl, ?refused⟩
  case level =>
    intro event logged
    obtain ⟨clause, announces⟩ : ∃ clause, Announces clause event := by
      generalize parsed.value = result at parses
      cases parses with
      | expressions _ each | unknown _ _ _ each | invalid _ _ _ each =>
          obtain ⟨clause, -, announces⟩ := exists_of_forall₂ each.flip logged
          exact ⟨clause, announces⟩
    exact announces.level
  case refused =>
    intro e failed
    have refused : call.value = .error e := by
      show parsed.value.map _ = .error e
      rw [failed]
      rfl
    have applied : ((Edit.add occur positional clauses).apply query).value = .error e := refused
    exact ⟨refused, by rw [Query.after, applied]⟩

/-- The clause with a value at fault is the last one in the log. -/
theorem parseAll_logs_refused :
    let query := Query.empty (.ofList ["status", "tags"])
    let clauses : List Clause := [⟨"status", .str "ok"⟩, ⟨"status__gte", .ofNat 200⟩,
      ⟨"tags__contains", .str "a"⟩, ⟨"host", .str "b"⟩]
    let call := query.add .exclude [] clauses
    call.value = .error (.invalidClause "tags__contains"
        "expected an array of candidates, found \"a\"") ∧
      call.events = [.phraseClause "status", .operatorClause "status" "status__gte" "__gte",
        .operatorClause "tags" "tags__contains" "__contains"] ∧
      query.after (.add .exclude [] clauses) = query := by
  intro query clauses call
  obtain ⟨-, -, -, logged, refused⟩ := parseAll_logs query .exclude [] clauses
  have failed : (parseAll query.fields clauses).value = .error (.invalidClause "tags__contains"
      "expected an array of candidates, found \"a\"") := by rfl
  obtain ⟨same, unchanged⟩ := refused _ failed
  exact ⟨same, logged.trans rfl, unchanged⟩

end Clause

end DocSearch
