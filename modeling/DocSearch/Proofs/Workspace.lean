import DocSearch.Workspace

namespace DocSearch

/-! A workspace in use. Its session stays what it is, and a stream is changed by the steps on its
own name only, so anything may happen between two steps on a stream. A record of the calls may be
kept on the way; it is forgotten without a trace. -/

/-- The calls that came, each with what it came to. -/
abbrev Record := List (Call × Outcome)

/-- A transport that keeps a record beside its own state. -/
def Transport.recording (transport : Transport σ) : Transport (σ × Record) where
  send call state :=
    let (answer, after) := transport.send call state.1
    (answer, (after, state.2 ++ [(call, answer.value)]))

variable {α β σ : Type}

namespace Step

/-- The step does not speak of the stream of that name. -/
def Spares (name : String) : Step → Prop
  | .openScroll other _ => other ≠ name
  | .nextBatch other => other ≠ name
  | .drain other _ => other ≠ name
  | _ => True

end Step

namespace Scroll

theorem poll_recording (scroll : Scroll α) (transport : Transport σ) (state : σ × Record) :
    scroll.poll transport state.1 =
      (scroll.poll transport.recording state).map fun (item, after, last) =>
        (item, after, last.1) := by
  unfold poll
  cases scroll.call? <;> rfl

theorem collect_recording (transport : Transport σ) (bound : Nat) (scroll : Scroll α)
    (state : σ × Record) :
    scroll.collect transport bound state.1 =
      ((scroll.collect transport.recording bound state).1,
        (scroll.collect transport.recording bound state).2.1,
        (scroll.collect transport.recording bound state).2.2.1) := by
  induction bound generalizing scroll state with
  | zero => rfl
  | succ bound ih =>
      rw [collect, collect, poll_recording]
      cases scroll.poll transport.recording state with
      | none => rfl
      | some polled => simp only [Option.map_some, ih]

end Scroll

namespace Workspace

/-- The same workspace with a record of all calls from here on. -/
def recording (workspace : Workspace α σ) : Workspace α (σ × Record) where
  session := {
    transport := workspace.session.transport.recording
    scrollLifetime := workspace.session.scrollLifetime }
  model := workspace.model
  executor := workspace.executor
  streams := workspace.streams
  state := (workspace.state, [])

def run (workspace : Workspace α σ) (steps : List Step) : Workspace α σ :=
  steps.foldl (fun workspace step => (workspace.take step).2) workspace

theorem run_cons (workspace : Workspace α σ) (step : Step) (rest : List Step) :
    workspace.run (step :: rest) = (workspace.take step).2.run rest := rfl

theorem run_append (workspace : Workspace α σ) (steps others : List Step) :
    workspace.run (steps ++ others) = (workspace.run steps).run others := by
  simp [run]

theorem run_concat (workspace : Workspace α σ) (steps : List Step) (step : Step) :
    workspace.run (steps ++ [step]) = ((workspace.run steps).take step).2 :=
  workspace.run_append steps [step]

theorem take_keeps (workspace : Workspace α σ) (step : Step) :
    (workspace.take step).2.session = workspace.session ∧
      (workspace.take step).2.model = workspace.model := by
  cases step with
  | openScroll name lifetime => cases lifetime <;> exact ⟨rfl, rfl⟩
  | nextBatch name =>
      simp only [take, nextBatch]
      split
      · exact ⟨rfl, rfl⟩
      · split <;> exact ⟨rfl, rfl⟩
  | drain name bound =>
      simp only [take, drain]
      split <;> exact ⟨rfl, rfl⟩
  | call call => exact ⟨rfl, rfl⟩
  | select | add | addClause | limit | offset | sortBy =>
      simp only [take, build]
      split <;> exact ⟨rfl, rfl⟩
  | fetch | fetchFields | aggregate | uniqueCount | sum | groupBy | count => exact ⟨rfl, rfl⟩

theorem take_session (workspace : Workspace α σ) (step : Step) :
    (workspace.take step).2.session = workspace.session := (workspace.take_keeps step).1

theorem run_keeps (workspace : Workspace α σ) (steps : List Step) :
    (workspace.run steps).session = workspace.session ∧
      (workspace.run steps).model = workspace.model := by
  induction steps generalizing workspace with
  | nil => exact ⟨rfl, rfl⟩
  | cons step rest ih =>
      obtain ⟨session, model⟩ := workspace.take_keeps step
      rw [run_cons]
      exact ⟨(ih _).1.trans session, (ih _).2.trans model⟩

theorem run_session (workspace : Workspace α σ) (steps : List Step) :
    (workspace.run steps).session = workspace.session := (workspace.run_keeps steps).1

theorem run_model (workspace : Workspace α σ) (steps : List Step) :
    (workspace.run steps).model = workspace.model := (workspace.run_keeps steps).2

section Streams

theorem lookup_putStream_of_ne (workspace : Workspace α σ) {name other : String}
    (stream : Scroll α) (differ : other ≠ name) :
    (workspace.putStream other stream).streams.lookup name = workspace.streams.lookup name :=
  Keyed.lookup_insert_of_ne _ _ differ.symm

theorem lookup_dropStream_of_ne (workspace : Workspace α σ) {name other : String}
    (differ : other ≠ name) :
    (workspace.dropStream other).streams.lookup name = workspace.streams.lookup name := by
  simp only [dropStream]
  induction workspace.streams with
  | nil => rfl
  | cons entry rest ih =>
      obtain ⟨key, stream⟩ := entry
      by_cases same : key = other
      · have unequal : (name == key) = false := by simpa [same] using differ.symm
        simp [same, ih, List.lookup_cons, same ▸ unequal]
      · cases found : name == key <;> simp [same, ih, List.lookup_cons, found]

theorem lookup_dropStream_self (workspace : Workspace α σ) (name : String) :
    (workspace.dropStream name).streams.lookup name = none := by
  simp only [dropStream]
  induction workspace.streams with
  | nil => rfl
  | cons entry rest ih =>
      obtain ⟨key, stream⟩ := entry
      by_cases same : key = name
      · simpa [same] using ih
      · have unequal : (name == key) = false := by simpa using Ne.symm same
        simpa [same, List.lookup_cons, unequal] using ih

variable {name : String} (workspace : Workspace α σ)

theorem build_streams (built : Logged (Except Error (Executor α))) :
    (workspace.build built).2.streams = workspace.streams := by
  unfold build
  split <;> rfl

theorem lookup_nextBatch_of_ne {other : String} (differ : other ≠ name) :
    (workspace.nextBatch other).2.streams.lookup name = workspace.streams.lookup name := by
  unfold nextBatch
  split
  · rfl
  · split
    · exact workspace.lookup_dropStream_of_ne differ
    · exact lookup_putStream_of_ne _ _ differ

theorem lookup_drain_of_ne {other : String} (bound : Nat) (differ : other ≠ name) :
    (workspace.drain other bound).2.streams.lookup name = workspace.streams.lookup name := by
  unfold drain
  split
  · rfl
  · exact lookup_dropStream_of_ne _ differ

theorem lookup_take_of_spares {step : Step} (spared : step.Spares name) :
    (workspace.take step).2.streams.lookup name = workspace.streams.lookup name := by
  cases step with
  | openScroll other lifetime =>
      cases lifetime <;> exact workspace.lookup_putStream_of_ne _ spared
  | nextBatch other => exact workspace.lookup_nextBatch_of_ne spared
  | drain other bound => exact workspace.lookup_drain_of_ne bound spared
  | call call => rfl
  | select | add | addClause | limit | offset | sortBy =>
      exact congrArg (List.lookup name) (workspace.build_streams _)
  | fetch | fetchFields | aggregate | uniqueCount | sum | groupBy | count => rfl

theorem lookup_run_of_spares {steps : List Step} (spared : ∀ step ∈ steps, step.Spares name) :
    (workspace.run steps).streams.lookup name = workspace.streams.lookup name := by
  induction steps generalizing workspace with
  | nil => rfl
  | cons step rest ih =>
      have first := workspace.lookup_take_of_spares (spared step (by simp))
      exact (ih _ fun other member => spared other (by simp [member])).trans first

end Streams

/-- The same workspace without the record, over the transport that was recorded. -/
def forget (transport : Transport σ) (workspace : Workspace α (σ × Record)) : Workspace α σ where
  session := { transport, scrollLifetime := workspace.session.scrollLifetime }
  model := workspace.model
  executor := workspace.executor
  streams := workspace.streams
  state := workspace.state.1

def Taken.forget (transport : Transport σ) (taken : Taken α (σ × Record)) : Taken α σ :=
  (taken.1, taken.2.forget transport)

variable {transport : Transport σ} {workspace : Workspace α (σ × Record)}

theorem build_forget (built : Logged (Except Error (Executor α))) :
    (workspace.forget transport).build built = (workspace.build built).forget transport := by
  unfold build
  split <;> rfl

section Recorded

variable (kept : workspace.session.transport = transport.recording)
include kept

theorem exchange_forget (exchange : Exchange β) (answer : β → Answer α) :
    (workspace.forget transport).exchange exchange answer =
      (workspace.exchange exchange answer).forget transport := by
  simp only [Workspace.exchange, kept]
  rfl

theorem nextBatch_forget (name : String) :
    (workspace.forget transport).nextBatch name =
      (workspace.nextBatch name).forget transport := by
  unfold nextBatch
  rw [show (workspace.forget transport).streams = workspace.streams from rfl, kept]
  cases workspace.streams.lookup name with
  | none => rfl
  | some stream =>
      simp only [forget, stream.poll_recording]
      cases stream.poll transport.recording workspace.state <;> rfl

theorem drain_forget (name : String) (bound : Nat) :
    (workspace.forget transport).drain name bound =
      (workspace.drain name bound).forget transport := by
  unfold drain
  rw [show (workspace.forget transport).streams = workspace.streams from rfl, kept]
  cases workspace.streams.lookup name with
  | none => rfl
  | some stream =>
      simp only [forget, stream.collect_recording]
      rfl

/-- Keeping a record changes nothing of what steps come to. -/
theorem take_forget (step : Step) :
    (workspace.forget transport).take step = (workspace.take step).forget transport := by
  cases step with
  | openScroll name lifetime => cases lifetime <;> rfl
  | nextBatch name => exact nextBatch_forget kept name
  | drain name bound => exact drain_forget kept name bound
  | call call =>
      simp only [take, Workspace.call, kept]
      rfl
  | select | add | addClause | limit | offset | sortBy =>
      simp only [take, ← build_forget]
      rfl
  | fetch | fetchFields | aggregate | uniqueCount | sum | groupBy | count =>
      simp only [take, ← exchange_forget kept]
      rfl

end Recorded

theorem run_forget {workspace : Workspace α (σ × Record)}
    (kept : workspace.session.transport = transport.recording) (steps : List Step) :
    (workspace.forget transport).run steps = (workspace.run steps).forget transport := by
  induction steps generalizing workspace with
  | nil => rfl
  | cons step rest ih =>
      have session := workspace.take_session step
      rw [run, List.foldl_cons, take_forget kept]
      exact ih ((congrArg Session.transport session).trans kept)

end Workspace

end DocSearch
