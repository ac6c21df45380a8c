import DocSearch.Proofs.Sending
import Mathlib.Data.List.DropRight
import Mathlib.Data.List.Induction

namespace DocSearch

/-! An executor is told by the steps since it was selected: the query by the calls on it that
succeeded, the window by the last limit and the last offset, the order by the last sort keys. What
it sends is made of these, and differs by what is asked for. -/

variable {α β σ : Type}

namespace Step

def isSelect : Step → Bool
  | select => true
  | _ => false

def limit? : Step → Option Nat
  | limit hits => some hits
  | _ => none

def offset? : Step → Option Nat
  | offset hits => some hits
  | _ => none

def sortBy? : Step → Option (List String)
  | sortBy keys => some keys
  | _ => none

/-- The steps since the last selection. -/
def current (steps : List Step) : List Step := steps.rtakeWhile fun step => !step.isSelect

def edits (steps : List Step) : List Edit := steps.filterMap edit?

/-- What the last of the steps that say something says. -/
def last (said : Step → Option β) (steps : List Step) : Option β := (steps.filterMap said).getLast?

theorem current_select (steps : List Step) : current (steps ++ [select]) = [] := by
  simp [current, isSelect]

theorem current_concat (steps : List Step) {step : Step} (stays : step.isSelect = false) :
    current (steps ++ [step]) = current steps ++ [step] := by
  simp [current, stays]

theorem edits_concat (steps : List Step) (step : Step) :
    edits (steps ++ [step]) = edits steps ++ step.edit?.toList := by
  cases found : step.edit? <;> simp [edits, List.filterMap_append, found]

theorem last_concat (said : Step → Option β) (steps : List Step) (step : Step) :
    last said (steps ++ [step]) = (said step).or (last said steps) := by
  cases found : said step <;> simp [last, List.filterMap_append, found]

/-- The query that steps make: its lists hold what the calls that succeed give. -/
def queryOf (fields : FieldSet) (steps : List Step) : Json :=
  let compiled := fun occur => (Edit.gathered fields (edits steps) occur).map Expression.compile
  .obj [("bool", .obj [
    ("filter", .arr (compiled .filter)),
    ("minimum_should_match", .ofNat (if (compiled .union).isEmpty then 0 else 1)),
    ("must_not", .arr (compiled .exclude)),
    ("should", .arr (compiled .union))])]

def bodyOf (fields : FieldSet) (steps : List Step) : Json :=
  match last sortBy? steps with
  | none | some [] => .obj [("query", queryOf fields steps)]
  | some keys => .obj [("query", queryOf fields steps),
      ("sort", .arr (keys.map fun key => (SortKey.parse key).compile))]

/-- The search for hits after steps on an executor. -/
def requestOf (model : Model α) (steps : List Step) (wanted : List String)
    (scroll : Option Duration) : SearchRequest where
  body := bodyOf model.fields steps
  index := model.index
  size := last limit? steps
  offset := last offset? steps
  sourceIncludes := wanted
  scroll := scroll

/-- The search for an aggregation, over all hits and for none of them. -/
def aggregationOf (model : Model α) (steps : List Step) (aggregation : Aggregation) :
    SearchRequest where
  body := .obj [("aggs", aggregation.compile 1), ("query", queryOf model.fields steps)]
  index := model.index
  size := some 0
  offset := none
  sourceIncludes := []
  scroll := none

end Step

namespace Executor

/-- The executor is what steps make of a new one. -/
structure BuiltBy (model : Model α) (lifetime : Duration) (steps : List Step)
    (executor : Executor α) : Prop where
  model_eq : executor.model = model
  lifetime_eq : executor.scrollLifetime = lifetime
  query_eq : executor.query = (Query.empty model.fields).run (Step.edits steps)
  limit_eq : executor.limit = Step.last Step.limit? steps
  offset_eq : executor.offset = Step.last Step.offset? steps
  sort_eq : executor.sort = ((Step.last Step.sortBy? steps).getD []).map SortKey.parse

namespace BuiltBy

variable {model : Model α} {lifetime : Duration} {steps : List Step} {executor : Executor α}

theorem new : BuiltBy model lifetime [] (Executor.new model lifetime) :=
  ⟨rfl, rfl, rfl, rfl, rfl, rfl⟩

variable (built : executor.BuiltBy model lifetime steps)
include built

theorem compile_eq : executor.query.compile = Step.queryOf model.fields steps := by
  rw [built.query_eq, Query.compile_of_list (Query.list_run_empty model.fields (Step.edits steps))]
  simp only [Step.queryOf, List.isEmpty_map]

theorem searchBody_eq : executor.searchBody = Step.bodyOf model.fields steps := by
  rw [searchBody, Step.bodyOf, built.compile_eq, built.sort_eq]
  cases Step.last Step.sortBy? steps with
  | none => rfl
  | some keys =>
      cases keys with
      | nil => rfl
      | cons key keys => simp

theorem searchRequest_eq (wanted : List String) (scroll : Option Duration) :
    executor.searchRequest wanted scroll = Step.requestOf model steps wanted scroll := by
  rw [searchRequest, Step.requestOf, built.searchBody_eq, built.model_eq, built.limit_eq,
    built.offset_eq]

theorem aggregate_call (aggregation : Aggregation) :
    (executor.aggregate aggregation).call =
      .search (Step.aggregationOf model steps aggregation) := by
  simp only [aggregate, built.compile_eq, built.model_eq]
  rfl

end BuiltBy

end Executor

namespace Workspace

variable (workspace : Workspace α σ)

theorem executor_build_edit (edit : Edit) :
    (workspace.build (workspace.executor.modifyQuery fun query => edit.apply query)).2.executor =
      { workspace.executor with query := workspace.executor.query.after edit } := by
  cases applied : (edit.apply workspace.executor.query).value <;>
    simp [build, Executor.modifyQuery, Query.after, applied, Except.map]

/-- What a step leaves of the executor in hand. -/
theorem executor_take {step : Step} (stays : step.isSelect = false) :
    (workspace.take step).2.executor = { workspace.executor with
      query := workspace.executor.query.run step.edit?.toList
      limit := step.limit?.or workspace.executor.limit
      offset := step.offset?.or workspace.executor.offset
      sort := (step.sortBy?.map (List.map SortKey.parse)).getD workspace.executor.sort } := by
  cases step with
  | select => contradiction
  | add occur expressions clauses => exact workspace.executor_build_edit (.add _ _ _)
  | addClause occur clause => exact workspace.executor_build_edit (.addClause _ _)
  | openScroll name given => cases given <;> rfl
  | nextBatch name =>
      simp only [take, nextBatch]
      split
      · rfl
      · split <;> rfl
  | drain name bound =>
      simp only [take, drain]
      split <;> rfl
  | limit | offset | sortBy | call => rfl
  | fetch | fetchFields | aggregate | uniqueCount | sum | groupBy | count => rfl

variable {workspace} {model : Model α} {lifetime : Duration} {steps : List Step}

theorem builtBy_take (built : workspace.executor.BuiltBy model lifetime (Step.current steps))
    (same : workspace.model = model) (kept : workspace.session.scrollLifetime = lifetime)
    (step : Step) :
    (workspace.take step).2.executor.BuiltBy model lifetime (Step.current (steps ++ [step])) := by
  -- A selection ends what was said before it; any other step adds to it.
  cases selects : step.isSelect with
  | true =>
      cases step <;> try contradiction
      rw [Step.current_select, ← same, ← kept]
      exact .new
  | false =>
      rw [workspace.executor_take selects, Step.current_concat steps selects]
      refine ⟨built.model_eq, built.lifetime_eq, ?_, ?_, ?_, ?_⟩
      · simp only [built.query_eq, Step.edits_concat, Query.run, List.foldl_append]
      · simp only [built.limit_eq, Step.last_concat]
      · simp only [built.offset_eq, Step.last_concat]
      · rw [Step.last_concat]
        cases step.sortBy? with
        | none => simpa using built.sort_eq
        | some keys => simp

theorem builtBy_run (session : Session σ) (model : Model α) (state : σ) (steps : List Step) :
    ((new session model state).run steps).executor.BuiltBy model session.scrollLifetime
      (Step.current steps) := by
  induction steps using List.reverseRecOn with
  | nil => exact .new
  | append_singleton steps step ih =>
      rw [run_concat]
      exact builtBy_take ih (run_model _ steps)
        (congrArg Session.scrollLifetime (run_session _ steps)) step

end Workspace

end DocSearch
