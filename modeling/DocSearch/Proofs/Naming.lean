import DocSearch.Proofs.Building
import DocSearch.Proofs.ClauseGrammar
import DocSearch.Proofs.Matching

namespace DocSearch

/-! Which fields a compiled query names, as its JSON shows them. Fragments are what stands in the
lists of a `bool`; the value of a clause may look like one but stands in a leaf, where nothing is
searched. A field that is named comes from a clause, which declares it, or from an expression that
was given as such. -/

namespace Json

/-- The kinds of leaves, each an object from fields to what is asked of them. -/
def leafKinds : List String :=
  ["match_phrase", "match_phrase_prefix", "wildcard", "regexp", "range"]

/-- The fragments in the lists of a `bool`. -/
def inner (fragment : Json) : List Json :=
  match fragment.get? "bool" with
  | some body => body.listAt "filter" ++ body.listAt "must_not" ++ body.listAt "should"
  | none => []

/-- The fragment stands in another one, however deep. -/
inductive Inside (outer : Json) : Json → Prop where
  | direct {fragment : Json} : fragment ∈ outer.inner → Inside outer fragment
  | deeper {middle fragment : Json} : Inside outer middle → fragment ∈ middle.inner →
      Inside outer fragment

/-- The fragment is a leaf that asks something of a field. -/
def Asks (fragment : Json) (kind field : String) (asked : Json) : Prop :=
  kind ∈ leafKinds ∧
    ∃ members, fragment.get? kind = some (.obj members) ∧ (field, asked) ∈ members

variable {kind field name : String} {value asked : Json}

theorem ne_bool_of_leafKind (leaf : kind ∈ leafKinds) : kind ≠ "bool" := by
  rintro rfl
  exact absurd leaf (by decide)

theorem inner_leaf (leaf : kind ∈ leafKinds) (content : Json) :
    (Json.obj [(kind, content)]).inner = [] := by
  rw [inner, get?_obj_of_ne (ne_bool_of_leafKind leaf).symm]
  rfl

theorem asks_leaf (asks : (Json.obj [(kind, .obj [(field, value)])]).Asks name field' asked) :
    name = kind ∧ field' = field ∧ asked = value := by
  obtain ⟨-, members, found, member⟩ := asks
  by_cases same : name = kind
  · subst same
    rw [get?_obj_self] at found
    cases found
    simpa using member
  · rw [get?_obj_of_ne same] at found
    cases found

/-- A `bool` is no leaf. -/
theorem not_asks_bool (body : Json) : ¬ (Json.obj [("bool", body)]).Asks kind field asked := by
  rintro ⟨leaf, members, found, -⟩
  rw [get?_obj_of_ne (ne_bool_of_leafKind leaf)] at found
  cases found

end Json

open Json (Inside)

theorem LeafKind.key_mem (kind : LeafKind) : kind.key ∈ Json.leafKinds := by
  cases kind <;> decide

namespace Expression

variable {fragment asked : Json} {kind field : String}

theorem inner_compile (expression : Expression) :
    expression.compile.inner =
      match expression with
      | contains field values _ => values.map (compileLeaf .matchPhrase field)
      | _ => [] := by
  cases expression with
  | leaf kind field value => exact Json.inner_leaf kind.key_mem _
  | range interval => exact Json.inner_leaf (by decide) _
  | contains field values minMatch => rfl

/-- Below the lists of a query fragments go down by one more level at most. -/
theorem inner_of_mem_inner (expression : Expression)
    (member : fragment ∈ expression.compile.inner) : fragment.inner = [] := by
  rw [inner_compile] at member
  cases expression with
  | leaf kind field value => contradiction
  | range interval => contradiction
  | contains field values minMatch =>
      obtain ⟨value, -, rfl⟩ := List.mem_map.mp member
      exact Json.inner_leaf (LeafKind.key_mem .matchPhrase) _

/-- The leaves of an expression are all on its own field. -/
theorem field_of_asks (expression : Expression)
    (placed : fragment = expression.compile ∨ fragment ∈ expression.compile.inner)
    (asks : fragment.Asks kind field asked) : field = expression.field := by
  rw [inner_compile] at placed
  cases expression with
  | leaf leafKind field value =>
      obtain rfl : fragment = _ := placed.resolve_right (by simp)
      exact (Json.asks_leaf asks).2.1
  | range interval =>
      obtain rfl : fragment = _ := placed.resolve_right (by simp)
      exact (Json.asks_leaf asks).2.1
  | contains field values minMatch =>
      rcases placed with rfl | member
      · exact absurd asks (Json.not_asks_bool _)
      · obtain ⟨value, -, rfl⟩ := List.mem_map.mp member
        exact (Json.asks_leaf asks).2.1

end Expression

namespace Query

variable {query : Query} {fragment : Json}

theorem inner_compile (query : Query) :
    query.compile.inner =
      (query.filter ++ query.exclude ++ query.union).map Expression.compile := by
  simp only [List.map_append]
  rfl

/-- What stands in a compiled query is an expression of one of its lists, or a part of one. -/
theorem placed_of_inside (inside : Inside query.compile fragment) :
    ∃ occur, ∃ expression ∈ query.list occur,
      fragment = expression.compile ∨ fragment ∈ expression.compile.inner := by
  induction inside with
  | direct member =>
      rw [inner_compile] at member
      obtain ⟨expression, listed, rfl⟩ := List.mem_map.mp member
      simp only [List.mem_append] at listed
      rcases listed with (filter | exclude) | union
      · exact ⟨.filter, expression, filter, .inl rfl⟩
      · exact ⟨.exclude, expression, exclude, .inl rfl⟩
      · exact ⟨.union, expression, union, .inl rfl⟩
  | deeper inside member ih =>
      obtain ⟨occur, expression, listed, rfl | part⟩ := ih
      · exact ⟨occur, expression, listed, .inr member⟩
      · rw [expression.inner_of_mem_inner part] at member
        contradiction

end Query

namespace Clause

variable {fields : FieldSet} {clause : Clause} {expression : Expression}

/-- The expression of a clause is on a declared field, and has the form that its operator gives. -/
theorem fragment_of_expression? (found : clause.expression? fields = some expression) :
    expression.field ∈ fields.names ∧
      ∃ op, Fragment expression.field op clause.value expression.compile := by
  have parsed := parse_of_expression? found
  have split := Operator.splits_iff_split.mpr (rfl : Operator.split clause.raw = _)
  by_cases declared : (Operator.split clause.raw).1 ∈ fields.names
  · have reads := reads_parse split declared
    rw [parsed] at reads
    cases reads with
    | expression same stands => exact ⟨same ▸ declared, _, same ▸ stands⟩
  · rw [parse_undeclared split declared] at parsed
    cases parsed

end Clause

/-- What the fragments of clauses keep to. -/
structure Json.ClauseForm (fragment : Json) : Prop where
  noWildcard : fragment.get? "wildcard" = none
  oneSide : ∀ field asked, fragment.Asks "range" field asked →
    ∃ operator bound, asked = .obj [(operator, bound)]
  oneMatch : ∀ body, fragment.get? "bool" = some body →
    body.get? "minimum_should_match" = some (.ofNat 1)

namespace Clause

variable {field : String} {value fragment content : Json}

theorem clauseForm_leaf {kind : String} (leaf : kind ∈ Json.leafKinds)
    (other : kind ≠ "wildcard")
    (sided : kind = "range" → ∃ operator bound, value = .obj [(operator, bound)]) :
    (Json.obj [(kind, .obj [(field, value)])]).ClauseForm := by
  refine ⟨?noWildcard, ?oneSide, ?oneMatch⟩
  case noWildcard =>
    rw [Json.get?_obj_of_ne other.symm]
    rfl
  case oneSide =>
    intro _ _ asks
    obtain ⟨same, -, rfl⟩ := Json.asks_leaf asks
    exact sided same.symm
  case oneMatch =>
    intro body found
    rw [Json.get?_obj_of_ne (Json.ne_bool_of_leafKind leaf).symm] at found
    cases found

theorem clauseForm_bool (should : List Json) :
    (Json.obj [("bool", .obj [("minimum_should_match", .ofNat 1),
      ("should", .arr should)])]).ClauseForm := by
  refine ⟨rfl, fun _ _ asks => absurd asks (Json.not_asks_bool _), fun body found => ?_⟩
  rw [Json.get?_obj_self] at found
  cases found
  rfl

/-- The fragment of a clause and the phrases in it keep to the form of clauses. -/
theorem Fragment.clauseForm {op : Option Operator} (stands : Fragment field op value content)
    (placed : fragment = content ∨ fragment ∈ content.inner) : fragment.ClauseForm := by
  -- Only a list of candidates has fragments inside.
  cases stands with
  | phrase | prefixed | regexp =>
      rw [Json.inner_leaf (by decide)] at placed
      obtain rfl := placed.resolve_right (by simp)
      exact clauseForm_leaf (by decide) (by decide) nofun
  | gte | gt | lte | lt =>
      rw [Json.inner_leaf (by decide)] at placed
      obtain rfl := placed.resolve_right (by simp)
      exact clauseForm_leaf (by decide) (by decide) fun _ => ⟨_, _, rfl⟩
  | contains values =>
      rcases placed with rfl | member
      · exact clauseForm_bool _
      · obtain ⟨value, -, rfl⟩ := List.mem_map.mp member
        exact clauseForm_leaf (by decide) (by decide) nofun

end Clause

theorem Edit.mem_gathered {fields : FieldSet} {edits : List Edit} {occur : Occur}
    {expression : Expression} :
    expression ∈ gathered fields edits occur ↔
      ∃ edit ∈ edits, edit.occur = occur ∧ edit.succeeds fields = true ∧
        (expression ∈ edit.expressions ∨
          ∃ clause ∈ edit.clauses, clause.expression? fields = some expression) := by
  simp [gathered, added, and_assoc]

namespace Query

/-- The fields that a query names after any calls, some of them failing. A leaf, at whatever depth,
asks something of a declared field or of the field of an expression that a successful call was
given. Calls that give no expressions leave only declared fields, and then there are no wildcards,
each range has one side, and each `bool` inside asks for one match. -/
theorem run_names_declared (fields : FieldSet) (edits : List Edit) :
    let compiled := ((empty fields).run edits).compile
    (∀ kind field asked, ¬ compiled.Asks kind field asked) ∧
    ∀ fragment, Inside compiled fragment →
      (∀ kind field asked, fragment.Asks kind field asked →
        field ∈ fields.names ∨ ∃ edit ∈ edits, edit.succeeds fields = true ∧
          ∃ expression ∈ edit.expressions, expression.field = field) ∧
      ((∀ edit ∈ edits, edit.expressions = []) →
        (∀ kind field asked, fragment.Asks kind field asked → field ∈ fields.names) ∧
          fragment.ClauseForm) := by
  intro compiled
  refine ⟨fun _ _ _ => Json.not_asks_bool _, fun fragment inside => ?_⟩
  obtain ⟨occur, expression, listed, placed⟩ := placed_of_inside inside
  rw [list_run_empty, Edit.mem_gathered] at listed
  obtain ⟨edit, member, -, succeeds, given | ⟨clause, -, found⟩⟩ := listed
  · refine ⟨fun kind field asked asks => ?_, fun none => ?_⟩
    · have named := expression.field_of_asks placed asks
      exact .inr ⟨edit, member, succeeds, expression, given, named.symm⟩
    · rw [none edit member] at given
      contradiction
  · obtain ⟨declared, op, stands⟩ := Clause.fragment_of_expression? found
    have named : ∀ kind field asked, fragment.Asks kind field asked → field ∈ fields.names :=
      fun _ _ _ asks => expression.field_of_asks placed asks ▸ declared
    exact ⟨fun kind field asked asks => .inl (named kind field asked asks),
      fun _ => ⟨named, stands.clauseForm placed⟩⟩

/-- A phrase among candidates, after a call that fails and beside a value in the form of a leaf. -/
theorem run_names_declared_nested :
    let fields := FieldSet.ofList ["tags", "path"]
    let edits : List Edit := [
      .addClause .filter ⟨"host", .str "web-1"⟩,
      .add .union [] [⟨"tags__contains", .arr [.str "a"]⟩,
        ⟨"path", .obj [("wildcard", .obj [("host", .str "w*")])]⟩]]
    let phrase : Json := .obj [("match_phrase", .obj [("tags", .str "a")])]
    (∀ edit ∈ edits, edit.expressions = []) ∧
      Inside ((empty fields).run edits).compile phrase ∧
      phrase.Asks "match_phrase" "tags" (.str "a") ∧ "tags" ∈ fields.names ∧
      phrase.ClauseForm := by
  intro fields edits phrase
  have bare : ∀ edit ∈ edits, edit.expressions = [] := by simp [edits, Edit.expressions]
  have inside : Inside ((empty fields).run edits).compile phrase :=
    .deeper (.direct (List.mem_cons_self)) List.mem_cons_self
  have asks : phrase.Asks "match_phrase" "tags" (.str "a") :=
    ⟨by decide, [("tags", .str "a")], rfl, List.mem_cons_self⟩
  obtain ⟨-, names⟩ := run_names_declared fields edits
  obtain ⟨declared, form⟩ := (names phrase inside).2 bare
  exact ⟨bare, inside, asks, declared _ _ _ asks, form⟩

end Query

end DocSearch
