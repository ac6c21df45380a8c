import DocSearch.Proofs.Building
import Mathlib.Data.Finset.Card
import Mathlib.Data.List.Induction

namespace DocSearch

/-! A set of fields holds every name it was ever given once, in the place where the name was given
first. What is read of clauses and built of them depends on which fields are in the set, but not on
their order. -/

theorem eraseDups_concat (names : List String) (name : String) :
    (names ++ [name]).eraseDups =
      if name ∈ names then names.eraseDups else names.eraseDups ++ [name] := by
  rw [List.eraseDups_append]
  by_cases present : name ∈ names
  · simp [List.removeAll, present]
  · simp [List.removeAll, present, List.eraseDups_cons]

theorem eraseDups_of_nodup {names : List String} (nodup : names.Nodup) :
    names.eraseDups = names := by
  induction names using List.reverseRecOn with
  | nil => rfl
  | append_singleton before name ih =>
      obtain ⟨distinct, -, apart⟩ := List.nodup_append.mp nodup
      have new : name ∉ before := fun member => apart name member name (by simp) rfl
      rw [eraseDups_concat, if_neg new, ih distinct]

namespace FieldSet

def insertAll (fields : FieldSet) (names : List String) : FieldSet :=
  names.foldl (fun set name => (set.insert name).2) fields

/-- The sets have the same members, in whatever order. -/
def SameMembers (fields other : FieldSet) : Prop :=
  ∀ name, name ∈ fields.names ↔ name ∈ other.names

theorem eq_of_names {fields other : FieldSet} (names : fields.names = other.names) :
    fields = other := by
  obtain ⟨names, _⟩ := fields
  obtain ⟨otherNames, _⟩ := other
  cases names
  rfl

theorem insertAll_concat (fields : FieldSet) (names : List String) (name : String) :
    fields.insertAll (names ++ [name]) = ((fields.insertAll names).insert name).2 := by
  rw [insertAll, List.foldl_append]
  rfl

theorem insertAll_ofList (initial inserted : List String) :
    (ofList initial).insertAll inserted = ofList (initial ++ inserted) :=
  List.foldl_append.symm

theorem names_ofList (given : List String) : (ofList given).names = given.eraseDups := by
  induction given using List.reverseRecOn with
  | nil => rfl
  | append_singleton before name ih =>
      have step : ofList (before ++ [name]) = ((ofList before).insert name).2 :=
        insertAll_concat empty before name
      simp only [step, names_insert, ih, eraseDups_concat, List.mem_eraseDups]

theorem mem_names_ofList {given : List String} {name : String} :
    name ∈ (ofList given).names ↔ name ∈ given := by
  rw [names_ofList, List.mem_eraseDups]

theorem ofList_names (fields : FieldSet) : ofList fields.names = fields :=
  eq_of_names ((names_ofList _).trans (eraseDups_of_nodup fields.nodup))

theorem size_ofList (given : List String) : (ofList given).size = given.toFinset.card := by
  have members : (ofList given).names.toFinset = given.toFinset := by
    ext name
    rw [List.mem_toFinset, List.mem_toFinset, mem_names_ofList]
  rw [← members]
  exact (List.toFinset_card_of_nodup (ofList given).nodup).symm

theorem insert_of_given {given : List String} {name : String} (member : name ∈ given) :
    (ofList given).insert name = (false, ofList given) := by
  have present := mem_names_ofList.mpr member
  refine Prod.ext ?_ (insert_of_mem present)
  rw [insert_added, contains_eq_true.mpr present]
  rfl

theorem insert_of_not_given {given : List String} {name : String} (new : name ∉ given) :
    (ofList given).insert name = (true, ofList (given ++ [name])) := by
  have absent : name ∉ (ofList given).names := mt mem_names_ofList.mp new
  refine Prod.ext ?_ (insertAll_concat empty given name).symm
  rw [insert_added, Bool.eq_false_iff.mpr (mt contains_eq_true.mp absent)]
  rfl

end FieldSet

namespace Clause

variable {fields other : FieldSet} (same : fields.SameMembers other)
include same

theorem parse_congr (clause : Clause) : clause.parse fields = clause.parse other := by
  have contains : ∀ name, fields.contains name = other.contains name := by
    intro name
    rw [Bool.eq_iff_iff, FieldSet.contains_eq_true, FieldSet.contains_eq_true, same name]
  have checks : fields.check = other.check := by
    funext name
    rw [FieldSet.check, FieldSet.check, contains]
  rw [parse, parse, checks]

theorem parseAll_congr (clauses : List Clause) :
    parseAll fields clauses = parseAll other clauses := by
  induction clauses with
  | nil => rfl
  | cons clause rest ih => rw [parseAll, parseAll, parse_congr same, ih]

end Clause

namespace Query

/-- What a call answers: an error or the query as it now is, and what is logged. -/
def answer (query : Query) (edit : Edit) : Logged (Except Error Json) :=
  (edit.apply query).map fun result => result.map compile

def answers (query : Query) : List Edit → List (Logged (Except Error Json))
  | [] => []
  | edit :: rest => query.answer edit :: (query.after edit).answers rest

def withFields (query : Query) (fields : FieldSet) : Query := { query with fields }

theorem append_withFields (query : Query) (fields : FieldSet) (occur : Occur)
    (expressions : List Expression) :
    (query.withFields fields).append occur expressions =
      (query.append occur expressions).withFields fields := by
  cases occur <;> rfl

variable {query : Query} {fields : FieldSet} (same : query.fields.SameMembers fields)
include same

theorem apply_withFields (edit : Edit) : edit.apply (query.withFields fields) =
    (edit.apply query).map fun result => result.map (withFields · fields) := by
  cases edit with
  | add occur expressions clauses =>
      rw [Edit.apply, Edit.apply, add, add, Clause.parseAll_congr same]
      show Logged.map _ (Clause.parseAll fields clauses) = _
      obtain ⟨value, events⟩ := Clause.parseAll fields clauses
      cases value <;> simp [Logged.map, Except.map, append_withFields]
  | addClause occur clause =>
      rw [Edit.apply, Edit.apply, addClause, addClause, Clause.parse_congr same]
      show Logged.map _ (clause.parse fields) = _
      obtain ⟨value, events⟩ := clause.parse fields
      cases value <;> simp [Logged.map, Except.map, append_withFields]

theorem answer_withFields (edit : Edit) :
    (query.withFields fields).answer edit = query.answer edit := by
  rw [answer, answer, apply_withFields same]
  obtain ⟨value, events⟩ := edit.apply query
  cases value <;> rfl

theorem after_withFields (edit : Edit) :
    (query.withFields fields).after edit = (query.after edit).withFields fields := by
  rw [after, after, apply_withFields same, Logged.value_map]
  cases (edit.apply query).value <;> rfl

theorem run_withFields (edits : List Edit) :
    (query.withFields fields).run edits = (query.run edits).withFields fields := by
  induction edits generalizing query with
  | nil => rfl
  | cons edit rest ih =>
      show ((query.withFields fields).after edit).run rest =
        ((query.after edit).run rest).withFields fields
      rw [after_withFields same]
      exact ih (by rwa [fields_after])

theorem answers_withFields (edits : List Edit) :
    (query.withFields fields).answers edits = query.answers edits := by
  induction edits generalizing query with
  | nil => rfl
  | cons edit rest ih =>
      have kept : (query.after edit).fields.SameMembers fields := by rwa [fields_after]
      rw [answers, answers, answer_withFields same, after_withFields same, ih kept]

end Query

namespace FieldSet

/-- A set has every name given to it, each once and where it was given first, and tells new names
from those it has. Over sets with the same members clauses are read alike, and queries are built
alike, with the same answers on the way. -/
theorem names_kept_once (initial inserted : List String) (left right : FieldSet) :
    let given := initial ++ inserted
    let fields := (ofList initial).insertAll inserted
    fields.names = given.eraseDups ∧
    (∀ name, ((fields.insert name).1 = true ↔ name ∉ given) ∧
      (name ∈ given → (fields.insert name).2 = fields)) ∧
    (∀ name, fields.contains name = true ↔ name ∈ given) ∧
    fields.size = given.toFinset.card ∧
    ofList fields.names = fields ∧
    (left.SameMembers right →
      (∀ clause : Clause, clause.parse left = clause.parse right) ∧
      ∀ edits, (Query.empty left).answers edits = (Query.empty right).answers edits ∧
        ((Query.empty left).run edits).compile = ((Query.empty right).run edits).compile) := by
  intro given fields
  have whole : fields = ofList given := insertAll_ofList initial inserted
  rw [whole]
  refine ⟨names_ofList given, fun name => ⟨?_, ?_⟩, fun name => ?_, size_ofList given,
    ofList_names _, ?_⟩
  · by_cases member : name ∈ given
    · rw [insert_of_given member]
      exact iff_of_false nofun (not_not_intro member)
    · rw [insert_of_not_given member]
      exact iff_of_true rfl member
  · intro member
    rw [insert_of_given member]
  · rw [contains_eq_true, mem_names_ofList]
  · intro same
    have alike : (Query.empty left).fields.SameMembers right := same
    refine ⟨Clause.parse_congr same, fun edits => ?_⟩
    refine ⟨(Query.answers_withFields alike edits).symm, ?_⟩
    show _ = (((Query.empty left).withFields right).run edits).compile
    rw [Query.run_withFields alike]
    rfl

/-- Two sets that are different in their order alone. -/
theorem names_kept_once_reordered :
    let fields := (ofList ["b", "a", "b"]).insertAll ["a", "c"]
    let other := ofList ["c", "b", "a"]
    let edits : List Edit := [.addClause .union ⟨"a__lt", .ofNat 7⟩,
      .add .filter [] [⟨"c", .null⟩, ⟨"d", .null⟩]]
    fields.names = ["b", "a", "c"] ∧ fields ≠ other ∧ fields.SameMembers other ∧
      (fields.insert "c").2 = fields ∧
      (Query.empty fields).answers edits = (Query.empty other).answers edits := by
  intro fields other edits
  obtain ⟨names, inserts, -, -, -, congr⟩ :=
    names_kept_once ["b", "a", "b"] ["a", "c"] fields other
  have shape : fields.names = ["b", "a", "c"] := names.trans (by decide)
  have same : fields.SameMembers other := by
    intro name
    have listed : other.names = ["c", "b", "a"] := by decide
    rw [shape, listed]
    simp only [List.mem_cons, List.not_mem_nil, or_false]
    tauto
  exact ⟨shape, by decide, same, (inserts "c").2 (by decide), ((congr same).2 edits).1⟩

end FieldSet

end DocSearch
