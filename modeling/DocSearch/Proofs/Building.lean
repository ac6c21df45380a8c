import DocSearch.Proofs.Traversal
import DocSearch.Query

namespace DocSearch

/-! A query is built by calls that add to one of its lists. Each list holds what the calls on it
added, one call after the other; a call that fails adds nothing to any list. -/

namespace Clause

def expression? (fields : FieldSet) (clause : Clause) : Option Expression :=
  (clause.parse fields).value.toOption

theorem parse_of_expression? {fields : FieldSet} {clause : Clause} {expression : Expression}
    (found : clause.expression? fields = some expression) :
    (clause.parse fields).value = .ok expression := by
  cases parsed : (clause.parse fields).value with
  | error e => simp [expression?, parsed, Except.toOption] at found
  | ok other => simpa [expression?, parsed, Except.toOption] using found

theorem expression?_eq_none {fields : FieldSet} {clause : Clause} :
    clause.expression? fields = none ↔ ∃ e, (clause.parse fields).value = .error e := by
  cases parsed : (clause.parse fields).value <;> simp [expression?, parsed, Except.toOption]

/-- Clauses that all have an expression are read as these, in order. -/
theorem parseAll_ok {fields : FieldSet} {clauses : List Clause}
    (each : ∀ clause ∈ clauses, (clause.expression? fields).isSome) :
    (parseAll fields clauses).value = .ok (clauses.filterMap fun clause => clause.expression? fields) := by
  induction clauses with
  | nil => rfl
  | cons clause rest ih =>
      obtain ⟨expression, found⟩ := Option.isSome_iff_exists.mp (each clause (by simp))
      have tail := ih fun other member => each other (by simp [member])
      simp [parseAll, parse_of_expression? found, tail, found, Except.map]

theorem value_parseAll (fields : FieldSet) (clauses : List Clause) :
    (parseAll fields clauses).value = clauses.mapM fun clause => (clause.parse fields).value := by
  induction clauses with
  | nil => rfl
  | cons clause rest ih =>
      rw [parseAll, mapM_cons_eq, Logged.value_bind, ← ih]
      cases (clause.parse fields).value <;> rfl

theorem exists_parseAll_ok_iff {fields : FieldSet} {clauses : List Clause} :
    (∃ expressions, (parseAll fields clauses).value = .ok expressions) ↔
      ∀ clause ∈ clauses, ∃ expression, (clause.parse fields).value = .ok expression := by
  simp only [value_parseAll, mapM_ok_iff]
  exact exists_forall₂_iff

theorem parseAll_error {fields : FieldSet} {clauses : List Clause} {clause : Clause}
    (member : clause ∈ clauses) (bad : clause.expression? fields = none) :
    ∃ e, (parseAll fields clauses).value = .error e := by
  cases parsed : (parseAll fields clauses).value with
  | error e => exact ⟨e, rfl⟩
  | ok expressions =>
      obtain ⟨expression, read⟩ := exists_parseAll_ok_iff.mp ⟨expressions, parsed⟩ clause member
      obtain ⟨e, failed⟩ := expression?_eq_none.mp bad
      rw [failed] at read
      contradiction

end Clause

inductive Edit where
  | add (occur : Occur) (expressions : List Expression) (clauses : List Clause)
  | addClause (occur : Occur) (clause : Clause)

namespace Edit

def occur : Edit → Occur
  | add occur _ _ => occur
  | addClause occur _ => occur

def expressions : Edit → List Expression
  | add _ expressions _ => expressions
  | addClause _ _ => []

def clauses : Edit → List Clause
  | add _ _ clauses => clauses
  | addClause _ clause => [clause]

def apply (query : Query) : Edit → Logged (Except Error Query)
  | add occur expressions clauses => query.add occur expressions clauses
  | addClause occur clause => query.addClause occur clause

/-- All clauses of the call can be read. -/
def succeeds (fields : FieldSet) (edit : Edit) : Bool :=
  edit.clauses.all fun clause => (clause.expression? fields).isSome

/-- The expressions given to a call, followed by those of its clauses. -/
def added (fields : FieldSet) (edit : Edit) : List Expression :=
  edit.expressions ++ edit.clauses.filterMap fun clause => clause.expression? fields

/-- The call with its clauses given one by one. -/
def singly : Edit → List Edit
  | add occur expressions clauses => add occur expressions [] :: clauses.map (addClause occur)
  | addClause occur clause => [addClause occur clause]

end Edit

namespace Query

/-- The query after a call; one that fails leaves it as it was. -/
def after (query : Query) (edit : Edit) : Query :=
  match (edit.apply query).value with
  | .ok changed => changed
  | .error _ => query

/-- The query after calls in order. -/
def run (query : Query) (edits : List Edit) : Query := edits.foldl after query

def list (query : Query) : Occur → List Expression
  | .filter => query.filter
  | .union => query.union
  | .exclude => query.exclude

@[simp] theorem fields_append (query : Query) (occur : Occur) (expressions : List Expression) :
    (query.append occur expressions).fields = query.fields := by
  cases occur <;> rfl

theorem list_append (query : Query) (occur other : Occur) (expressions : List Expression) :
    (query.append occur expressions).list other =
      query.list other ++ if occur = other then expressions else [] := by
  cases occur <;> cases other <;> simp [append, list]

theorem ext_list {left right : Query} (fields : left.fields = right.fields)
    (lists : ∀ occur, left.list occur = right.list occur) : left = right := by
  obtain ⟨leftFields, leftFilter, leftUnion, leftExclude⟩ := left
  obtain ⟨rightFields, rightFilter, rightUnion, rightExclude⟩ := right
  have filter := lists .filter
  have union := lists .union
  have exclude := lists .exclude
  simp only [list] at fields filter union exclude
  subst fields filter union exclude
  rfl

end Query

namespace Edit

theorem apply_of_succeeds {query : Query} {edit : Edit} (readable : edit.succeeds query.fields) :
    (edit.apply query).value = .ok (query.append edit.occur (edit.added query.fields)) := by
  simp only [succeeds, List.all_eq_true] at readable
  cases edit with
  | add occur expressions clauses =>
      have parsed : (Clause.parseAll query.fields clauses).value = .ok _ :=
        Clause.parseAll_ok readable
      simp [apply, Query.add, parsed, Except.map, Edit.occur, added, Edit.expressions, Edit.clauses]
  | addClause occur clause =>
      obtain ⟨expression, found⟩ := Option.isSome_iff_exists.mp (readable clause (by simp [clauses]))
      have parsed := Clause.parse_of_expression? found
      simp [apply, Query.addClause, parsed, Except.map, Edit.occur, added, Edit.expressions,
        Edit.clauses, found]

theorem apply_of_not_succeeds {query : Query} {edit : Edit}
    (unreadable : ¬ edit.succeeds query.fields) : ∃ e, (edit.apply query).value = .error e := by
  obtain ⟨clause, member, bad⟩ : ∃ clause ∈ edit.clauses, clause.expression? query.fields = none := by
    simpa [succeeds] using unreadable
  cases edit with
  | add occur expressions clauses =>
      obtain ⟨e, failed⟩ : ∃ e, (Clause.parseAll query.fields clauses).value = .error e :=
        Clause.parseAll_error member bad
      exact ⟨e, by simp [apply, Query.add, failed, Except.map]⟩
  | addClause occur given =>
      obtain rfl : clause = given := by simpa [clauses] using member
      obtain ⟨e, failed⟩ := Clause.expression?_eq_none.mp bad
      exact ⟨e, by simp [apply, Query.addClause, failed, Except.map]⟩

/-- Whether a call succeeds depends on its clauses and the declared fields alone. -/
theorem apply_ok_iff (query : Query) (edit : Edit) :
    (∃ changed, (edit.apply query).value = .ok changed) ↔ edit.succeeds query.fields = true := by
  by_cases readable : edit.succeeds query.fields
  · exact iff_of_true ⟨_, apply_of_succeeds readable⟩ readable
  · obtain ⟨e, failed⟩ := apply_of_not_succeeds readable
    exact iff_of_false (by simp [failed]) readable

end Edit

namespace Query

theorem after_of_succeeds {query : Query} {edit : Edit} (readable : edit.succeeds query.fields) :
    query.after edit = query.append edit.occur (edit.added query.fields) := by
  rw [after, Edit.apply_of_succeeds readable]

theorem after_of_not_succeeds {query : Query} {edit : Edit}
    (unreadable : ¬ edit.succeeds query.fields) : query.after edit = query := by
  obtain ⟨e, failed⟩ := Edit.apply_of_not_succeeds unreadable
  rw [after, failed]

@[simp] theorem fields_after (query : Query) (edit : Edit) :
    (query.after edit).fields = query.fields := by
  by_cases readable : edit.succeeds query.fields
  · rw [after_of_succeeds readable, fields_append]
  · rw [after_of_not_succeeds readable]

@[simp] theorem fields_run (query : Query) (edits : List Edit) :
    (query.run edits).fields = query.fields := by
  induction edits generalizing query with
  | nil => rfl
  | cons edit rest ih => exact (ih (query.after edit)).trans (query.fields_after edit)

end Query

namespace Edit

/-- What the calls that succeed add to a list, call by call. -/
def gathered (fields : FieldSet) (edits : List Edit) (occur : Occur) : List Expression :=
  (edits.filter fun edit => edit.occur = occur ∧ edit.succeeds fields).flatMap (added fields)

theorem gathered_append (fields : FieldSet) (first second : List Edit) (occur : Occur) :
    gathered fields (first ++ second) occur =
      gathered fields first occur ++ gathered fields second occur := by
  simp only [gathered, List.filter_append, List.flatMap_append]

theorem gathered_cons (fields : FieldSet) (edit : Edit) (rest : List Edit) (occur : Occur) :
    gathered fields (edit :: rest) occur =
      gathered fields [edit] occur ++ gathered fields rest occur :=
  gathered_append fields [edit] rest occur

/-- Calls on other lists do not matter to a list. -/
theorem gathered_filter_occur (fields : FieldSet) (edits : List Edit) (occur : Occur) :
    gathered fields (edits.filter fun edit => edit.occur = occur) occur =
      gathered fields edits occur := by
  simp only [gathered, List.filter_filter]
  congr 2
  funext edit
  by_cases same : edit.occur = occur <;> simp [same]

/-- Nor do calls that fail. -/
theorem gathered_filter_succeeds (fields : FieldSet) (edits : List Edit) (occur : Occur) :
    gathered fields (edits.filter (succeeds fields)) occur = gathered fields edits occur := by
  simp only [gathered, List.filter_filter]
  congr 2
  funext edit
  by_cases readable : edit.succeeds fields <;> simp [readable]

theorem gathered_singleton {fields : FieldSet} {edit : Edit} (readable : edit.succeeds fields)
    (occur : Occur) :
    gathered fields [edit] occur = if edit.occur = occur then edit.added fields else [] := by
  by_cases same : edit.occur = occur <;> simp [gathered, readable, same]

theorem gathered_addClauses {fields : FieldSet} {clauses : List Clause} (given occur : Occur)
    (each : ∀ clause ∈ clauses, (clause.expression? fields).isSome) :
    gathered fields (clauses.map (addClause given)) occur =
      if given = occur then clauses.filterMap fun clause => clause.expression? fields else [] := by
  induction clauses with
  | nil => simp [gathered]
  | cons clause rest ih =>
      obtain ⟨expression, found⟩ := Option.isSome_iff_exists.mp (each clause (by simp))
      have tail := ih fun other member => each other (by simp [member])
      have readable : (addClause given clause).succeeds fields := by simp [succeeds, Edit.clauses, found]
      rw [List.map_cons, gathered_cons, gathered_singleton readable, tail]
      by_cases same : given = occur <;>
        simp [Edit.occur, added, Edit.clauses, Edit.expressions, found, same]

/-- A call that succeeds adds the same when its clauses are given one by one. -/
theorem gathered_singly {fields : FieldSet} {edit : Edit} (readable : edit.succeeds fields)
    (occur : Occur) : gathered fields edit.singly occur = gathered fields [edit] occur := by
  cases edit with
  | add given expressions clauses =>
      have each : ∀ clause ∈ clauses, (clause.expression? fields).isSome :=
        List.all_eq_true.mp readable
      have bare : (add given expressions []).succeeds fields := rfl
      rw [singly, gathered_cons, gathered_singleton bare, gathered_addClauses given occur each,
        gathered_singleton readable]
      by_cases same : given = occur <;>
        simp [Edit.occur, added, Edit.clauses, Edit.expressions, same]
  | addClause given clause => rfl

end Edit

namespace Query

theorem list_after (query : Query) (edit : Edit) (occur : Occur) :
    (query.after edit).list occur =
      query.list occur ++ Edit.gathered query.fields [edit] occur := by
  by_cases readable : edit.succeeds query.fields
  · rw [after_of_succeeds readable, list_append, Edit.gathered_singleton readable]
  · rw [after_of_not_succeeds readable]
    simp [Edit.gathered, readable]

theorem list_run (query : Query) (edits : List Edit) (occur : Occur) :
    (query.run edits).list occur = query.list occur ++ Edit.gathered query.fields edits occur := by
  induction edits generalizing query with
  | nil => simp [run, Edit.gathered]
  | cons edit rest ih =>
      have step := ih (query.after edit)
      rw [list_after, fields_after, List.append_assoc, ← Edit.gathered_cons] at step
      exact step

/-- Runs that gather the same for every list end in the same query. -/
theorem run_eq_of_gathered {query : Query} {edits others : List Edit}
    (same : ∀ occur, Edit.gathered query.fields edits occur =
      Edit.gathered query.fields others occur) : query.run edits = query.run others := by
  refine ext_list (by simp) fun occur => ?_
  rw [list_run, list_run, same]

@[simp] theorem fields_empty (fields : FieldSet) : (empty fields).fields = fields := rfl

theorem list_empty (fields : FieldSet) (occur : Occur) : (empty fields).list occur = [] := by
  cases occur <;> rfl

theorem list_run_empty (fields : FieldSet) (edits : List Edit) (occur : Occur) :
    ((empty fields).run edits).list occur = Edit.gathered fields edits occur := by
  rw [list_run, list_empty, List.nil_append]
  rfl

theorem compile_of_list {query : Query} {gathered : Occur → List Expression}
    (lists : ∀ occur, query.list occur = gathered occur) :
    query.compile = .obj [("bool", .obj [
      ("filter", .arr ((gathered .filter).map Expression.compile)),
      ("minimum_should_match", .ofNat (if (gathered .union).isEmpty then 0 else 1)),
      ("must_not", .arr ((gathered .exclude).map Expression.compile)),
      ("should", .arr ((gathered .union).map Expression.compile))])] := by
  have filter := lists .filter
  have union := lists .union
  have exclude := lists .exclude
  simp only [list] at filter union exclude
  rw [compile, filter, union, exclude]

theorem isEmpty_iff_list (query : Query) :
    query.isEmpty = true ↔ ∀ occur, query.list occur = [] := by
  constructor
  · intro empty occur
    simp only [isEmpty, Bool.and_eq_true, List.isEmpty_iff] at empty
    cases occur
    · exact empty.1.1
    · exact empty.1.2
    · exact empty.2
  · intro empty
    simp [isEmpty, show query.filter = [] from empty .filter, show query.union = [] from empty .union,
      show query.exclude = [] from empty .exclude]

/-- What calls make of an empty query: its compiled lists hold what the successful calls on each
of them gave, call by call. So failing calls may be left out, calls on different lists may be
exchanged, and the clauses of a call may be given one by one. -/
theorem run_gathers (fields : FieldSet) (edits : List Edit) :
    let query := (empty fields).run edits
    let compiled := fun occur => (Edit.gathered fields edits occur).map Expression.compile
    query.compile = .obj [("bool", .obj [
        ("filter", .arr (compiled .filter)),
        ("minimum_should_match", .ofNat (if (compiled .union).isEmpty then 0 else 1)),
        ("must_not", .arr (compiled .exclude)),
        ("should", .arr (compiled .union))])] ∧
      (query.isEmpty = true ↔ ∀ occur, compiled occur = []) ∧
      (∀ edit : Edit, (∃ changed, (edit.apply query).value = .ok changed) ↔
        edit.succeeds fields = true) ∧
      (∀ edit : Edit, ¬ edit.succeeds fields = true → query.after edit = query) ∧
      (∀ others : List Edit,
        (∀ occur, (others.filter fun edit => edit.occur = occur) =
          edits.filter fun edit => edit.occur = occur) →
        ((empty fields).run others).compile = query.compile) ∧
      (empty fields).run (edits.filter (Edit.succeeds fields)) = query ∧
      ∀ before edit rest, edits = before ++ edit :: rest → edit.succeeds fields = true →
        (empty fields).run (before ++ edit.singly ++ rest) = query := by
  intro query compiled
  have lists : ∀ occur, query.list occur = Edit.gathered fields edits occur :=
    list_run_empty fields edits
  have declared : query.fields = fields := fields_run (empty fields) edits
  refine ⟨?compile, ?isEmpty, ?success, ?failure, ?interleaving, ?deletion, ?splitting⟩
  case compile => simpa [compiled] using compile_of_list lists
  case isEmpty => simp [isEmpty_iff_list, lists, compiled]
  case success =>
    intro edit
    rw [Edit.apply_ok_iff, declared]
  case failure =>
    intro edit unreadable
    exact after_of_not_succeeds (by rwa [declared])
  case interleaving =>
    intro others same
    refine congrArg compile (run_eq_of_gathered fun occur => ?_)
    rw [← Edit.gathered_filter_occur, same occur, Edit.gathered_filter_occur]
  case deletion => exact run_eq_of_gathered (Edit.gathered_filter_succeeds fields edits)
  case splitting =>
    intro before edit rest shape readable
    rw [show query = (empty fields).run (before ++ edit :: rest) from shape ▸ rfl]
    refine run_eq_of_gathered fun occur => ?_
    simp only [fields_empty, Edit.gathered_append, Edit.gathered_cons _ edit rest]
    rw [Edit.gathered_singly readable, List.append_assoc]

/-- A call on two clauses, one on a field that is not declared, and a single clause elsewhere. -/
theorem run_gathers_exchanged :
    let fields := FieldSet.ofList ["status", "latency"]
    let both : Edit := .add .filter [.leaf .wildcard "status" (.str "2*")]
      [⟨"latency__lt", .ofNat 250⟩, ⟨"status", .str "ok"⟩]
    let failing : Edit := .add .exclude [] [⟨"status", .str "ok"⟩, ⟨"host", .str "web-1"⟩]
    let single : Edit := .addClause .union ⟨"status__prefix", .str "4"⟩
    both.succeeds fields = true ∧ ¬ failing.succeeds fields = true ∧
      ((empty fields).run [single, failing, both]).compile =
        ((empty fields).run [both, failing, single]).compile ∧
      ((empty fields).run [both, failing, single]).after failing =
        (empty fields).run [both, failing, single] ∧
      (empty fields).run (both.singly ++ [failing, single]) =
        (empty fields).run [both, failing, single] := by
  intro fields both failing single
  have readable : both.succeeds fields = true := by decide
  have unreadable : ¬ failing.succeeds fields = true := by decide
  obtain ⟨-, -, -, failure, interleaving, -, splitting⟩ :=
    run_gathers fields [both, failing, single]
  refine ⟨readable, unreadable, ?_, failure failing unreadable, ?_⟩
  · exact interleaving [single, failing, both] (by rintro (_ | _ | _) <;> rfl)
  · exact splitting [] both [failing, single] rfl readable

end Query

end DocSearch
