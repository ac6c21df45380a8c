import DocSearch.Session

namespace DocSearch

/-! A workspace is a session in use: one executor that is being built and run, and the scroll
streams that are open, by name. Steps are taken one after the other; a step that fails changes
neither the executor nor the streams, except that a stream ends with its error. -/

inductive Step where
  | select
  | add (occur : Occur) (expressions : List Expression) (clauses : List Clause)
  | addClause (occur : Occur) (clause : Clause)
  | limit (hits : Nat)
  | offset (hits : Nat)
  | sortBy (keys : List String)
  | fetch
  | fetchFields (fields : List String)
  | aggregate (aggregation : Aggregation)
  | uniqueCount (field : String)
  | sum (field : String)
  | groupBy (field : String) (maxBuckets : Nat)
  | count
  /-- Opens a stream under a name; the lifetime is that of the session if none is given. -/
  | openScroll (name : String) (lifetime : Option Duration)
  | nextBatch (name : String)
  /-- Takes all batches that are left, at most `bound` of them. -/
  | drain (name : String) (bound : Nat)
  /-- A call past the executor. -/
  | call (call : Call)

inductive Answer (α : Type) where
  | built
  | documents (documents : List α)
  | sources (sources : List Json)
  | result (result : Option AggregationResult)
  | number (number : Nat)
  | double (double : Double)
  | groups (groups : List (String × AggregationResult))
  | opened
  | batches (batches : List (Except Error (List α)))
  /-- There was nothing to take from the stream. -/
  | ended
  | response (response : Json)

structure Workspace (α σ : Type) where
  session : Session σ
  model : Model α
  executor : Executor α
  streams : List (String × Scroll α)
  state : σ

/-- What a step comes to, and the workspace after it. -/
abbrev Workspace.Taken (α σ : Type) := Logged (Except Error (Answer α)) × Workspace α σ

namespace Workspace

variable {α σ : Type}

def new (session : Session σ) (model : Model α) (state : σ) : Workspace α σ :=
  { session, model, executor := session.select model, streams := [], state }

def putStream (workspace : Workspace α σ) (name : String) (stream : Scroll α) : Workspace α σ :=
  { workspace with streams := Keyed.insert workspace.streams name stream }

/-- A stream that has reported its end is forgotten. -/
def dropStream (workspace : Workspace α σ) (name : String) : Workspace α σ :=
  { workspace with streams := workspace.streams.filter fun stream => stream.1 != name }

def build (workspace : Workspace α σ) (built : Logged (Except Error (Executor α))) :
    Taken α σ :=
  match built.value with
  | .ok executor => (⟨.ok .built, built.events⟩, { workspace with executor })
  | .error e => (⟨.error e, built.events⟩, workspace)

def exchange (workspace : Workspace α σ) (exchange : Exchange β) (answer : β → Answer α) :
    Taken α σ :=
  let (result, state) := workspace.session.transport.perform exchange workspace.state
  (⟨result.value.map answer, result.events⟩, { workspace with state })

def openScroll (workspace : Workspace α σ) (name : String) (opened : Logged (Scroll α)) :
    Taken α σ :=
  (⟨.ok .opened, opened.events⟩, workspace.putStream name opened.value)

def nextBatch (workspace : Workspace α σ) (name : String) : Taken α σ :=
  match workspace.streams.lookup name with
  | none => (.silent (.ok .ended), workspace)
  | some stream =>
    match stream.poll workspace.session.transport workspace.state with
    | none => (.silent (.ok .ended), workspace.dropStream name)
    | some (item, stream, state) =>
      (item.map fun item => item.map fun documents => .documents documents,
        { workspace with state }.putStream name stream)

def drain (workspace : Workspace α σ) (name : String) (bound : Nat) : Taken α σ :=
  match workspace.streams.lookup name with
  | none => (.silent (.ok .ended), workspace)
  | some stream =>
    let (items, _, state) := stream.collect workspace.session.transport bound workspace.state
    (items.map fun items => .ok (.batches items), { workspace with state }.dropStream name)

def call (workspace : Workspace α σ) (call : Call) : Taken α σ :=
  let (answer, state) := workspace.session.transport.send call workspace.state
  (answer.map fun outcome => outcome.map .response, { workspace with state })

def take (workspace : Workspace α σ) : Step → Taken α σ
  | .select => workspace.build (.silent (.ok (workspace.session.select workspace.model)))
  | .add occur expressions clauses =>
    workspace.build (workspace.executor.add occur expressions clauses)
  | .addClause occur clause => workspace.build (workspace.executor.addClause occur clause)
  | .limit hits => workspace.build (.silent (.ok (workspace.executor.withLimit hits)))
  | .offset hits => workspace.build (.silent (.ok (workspace.executor.withOffset hits)))
  | .sortBy keys => workspace.build (.silent (.ok (workspace.executor.sortBy keys)))
  | .fetch => workspace.exchange workspace.executor.fetch .documents
  | .fetchFields fields => workspace.exchange (workspace.executor.fetchFields fields) .sources
  | .aggregate aggregation =>
    workspace.exchange (workspace.executor.aggregate aggregation) .result
  | .uniqueCount field => workspace.exchange (workspace.executor.uniqueCount field) .number
  | .sum field => workspace.exchange (workspace.executor.sum field) .double
  | .groupBy field maxBuckets =>
    workspace.exchange (workspace.executor.groupBy field maxBuckets) .groups
  | .count => workspace.exchange workspace.executor.count .number
  | .openScroll name none => workspace.openScroll name workspace.executor.scrollDefault
  | .openScroll name (some lifetime) =>
    workspace.openScroll name (workspace.executor.scroll lifetime)
  | .nextBatch name => workspace.nextBatch name
  | .drain name bound => workspace.drain name bound
  | .call call => workspace.call call

end Workspace

end DocSearch
