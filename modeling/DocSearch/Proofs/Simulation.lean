import DocSearch.Proofs.Workspace
import Mathlib.Data.Option.Defs

namespace DocSearch

/-! Transports that answer alike cannot be told apart. They may remember different things, as long
as these stay related; everything that steps come to is the same, and so is all that is logged. -/

variable {α β σ τ : Type}

/-- From related states, both transports answer and log the same, and end in related states. -/
def Transport.Alike (related : σ → τ → Prop) (transport : Transport σ) (other : Transport τ) :
    Prop :=
  ∀ call state state', related state state' →
    (transport.send call state).1 = (other.send call state').1 ∧
      related (transport.send call state).2 (other.send call state').2

section Transports

variable {related : σ → τ → Prop} {transport : Transport σ} {other : Transport τ}
  (alike : transport.Alike related other)
include alike

theorem Transport.Alike.perform (exchange : Exchange β) {state : σ} {state' : τ}
    (holds : related state state') :
    (transport.perform exchange state).1 = (other.perform exchange state').1 ∧
      related (transport.perform exchange state).2 (other.perform exchange state').2 := by
  obtain ⟨answers, after⟩ := alike exchange.call state state' holds
  simp only [Transport.perform, answers]
  exact ⟨trivial, after⟩

theorem Transport.Alike.poll (scroll : Scroll α) {state : σ} {state' : τ}
    (holds : related state state') :
    Option.Rel
      (fun polled polled' => polled.1 = polled'.1 ∧ polled.2.1 = polled'.2.1 ∧
        related polled.2.2 polled'.2.2)
      (scroll.poll transport state) (scroll.poll other state') := by
  unfold Scroll.poll
  cases scroll.call? with
  | none => exact .none
  | some call =>
      obtain ⟨answers, after⟩ := alike call state state' holds
      simp only [answers]
      exact .some ⟨rfl, rfl, after⟩

theorem Transport.Alike.collect (bound : Nat) (scroll : Scroll α) {state : σ} {state' : τ}
    (holds : related state state') :
    (scroll.collect transport bound state).1 = (scroll.collect other bound state').1 ∧
      related (scroll.collect transport bound state).2.2
        (scroll.collect other bound state').2.2 := by
  induction bound generalizing scroll state state' with
  | zero => exact ⟨rfl, holds⟩
  | succ bound ih =>
      rw [Scroll.collect, Scroll.collect]
      have polls := alike.poll scroll holds
      generalize scroll.poll transport state = polled at polls ⊢
      generalize scroll.poll other state' = polled' at polls ⊢
      cases polls with
      | none => exact ⟨rfl, holds⟩
      | @some polled polled' same =>
          obtain ⟨item, rest, after⟩ := polled
          obtain ⟨item', rest', after'⟩ := polled'
          obtain ⟨rfl, rfl, holds⟩ := same
          obtain ⟨items, last⟩ := ih rest holds
          simp only [items]
          exact ⟨trivial, last⟩

end Transports

namespace Workspace

/-- The workspaces differ in nothing but what their transports remember. -/
structure Alike (related : σ → τ → Prop) (workspace : Workspace α σ) (other : Workspace α τ) :
    Prop where
  transport : workspace.session.transport.Alike related other.session.transport
  lifetime : workspace.session.scrollLifetime = other.session.scrollLifetime
  model : workspace.model = other.model
  executor : workspace.executor = other.executor
  streams : workspace.streams = other.streams
  state : related workspace.state other.state

/-- What steps come to, one after the other. -/
def results (workspace : Workspace α σ) : List Step → List (Logged (Except Error (Answer α)))
  | [] => []
  | step :: rest => (workspace.take step).1 :: (workspace.take step).2.results rest

variable {related : σ → τ → Prop} {workspace : Workspace α σ} {other : Workspace α τ}

namespace Alike

variable (alike : workspace.Alike related other)
include alike

theorem build (built : Logged (Except Error (Executor α))) :
    (workspace.build built).1 = (other.build built).1 ∧
      (workspace.build built).2.Alike related (other.build built).2 := by
  unfold Workspace.build
  split
  · exact ⟨rfl, { alike with executor := rfl }⟩
  · exact ⟨rfl, alike⟩

theorem exchange (exchange : Exchange β) (answer : β → Answer α) :
    (workspace.exchange exchange answer).1 = (other.exchange exchange answer).1 ∧
      (workspace.exchange exchange answer).2.Alike related
        (other.exchange exchange answer).2 := by
  obtain ⟨answers, after⟩ := alike.transport.perform exchange alike.state
  simp only [Workspace.exchange, answers]
  exact ⟨trivial, { alike with state := after }⟩

theorem openScroll (name : String) (opened : Logged (Scroll α)) :
    (workspace.openScroll name opened).1 = (other.openScroll name opened).1 ∧
      (workspace.openScroll name opened).2.Alike related (other.openScroll name opened).2 := by
  refine ⟨rfl, { alike with streams := ?_ }⟩
  simp only [Workspace.openScroll, putStream, alike.streams]

theorem nextBatch (name : String) :
    (workspace.nextBatch name).1 = (other.nextBatch name).1 ∧
      (workspace.nextBatch name).2.Alike related (other.nextBatch name).2 := by
  unfold Workspace.nextBatch
  rw [alike.streams]
  cases other.streams.lookup name with
  | none => exact ⟨rfl, alike⟩
  | some stream =>
      have polls := alike.transport.poll stream alike.state
      simp only
      generalize stream.poll workspace.session.transport workspace.state = polled at polls ⊢
      generalize stream.poll other.session.transport other.state = polled' at polls ⊢
      cases polls with
      | none =>
          refine ⟨rfl, { alike with streams := ?_ }⟩
          simp only [dropStream, alike.streams]
      | @some polled polled' same =>
          obtain ⟨item, rest, after⟩ := polled
          obtain ⟨item', rest', after'⟩ := polled'
          obtain ⟨rfl, rfl, holds⟩ := same
          exact ⟨rfl, { alike with streams := rfl, state := holds }⟩

theorem drain (name : String) (bound : Nat) :
    (workspace.drain name bound).1 = (other.drain name bound).1 ∧
      (workspace.drain name bound).2.Alike related (other.drain name bound).2 := by
  unfold Workspace.drain
  rw [alike.streams]
  cases other.streams.lookup name with
  | none => exact ⟨rfl, alike⟩
  | some stream =>
      obtain ⟨items, after⟩ := alike.transport.collect bound stream alike.state
      simp only [items]
      exact ⟨trivial, { alike with streams := rfl, state := after }⟩

theorem call (call : Call) :
    (workspace.call call).1 = (other.call call).1 ∧
      (workspace.call call).2.Alike related (other.call call).2 := by
  obtain ⟨answers, after⟩ := alike.transport call _ _ alike.state
  simp only [Workspace.call, answers]
  exact ⟨trivial, { alike with state := after }⟩

/-- No step tells the two apart. -/
theorem take (step : Step) :
    (workspace.take step).1 = (other.take step).1 ∧
      (workspace.take step).2.Alike related (other.take step).2 := by
  have select : workspace.session.select workspace.model = other.session.select other.model := by
    simp only [Session.select, alike.lifetime, alike.model]
  cases step with
  | select =>
      simp only [Workspace.take, select]
      exact alike.build _
  | openScroll name lifetime =>
      cases lifetime <;> simp only [Workspace.take, alike.executor] <;> exact alike.openScroll _ _
  | nextBatch name => exact alike.nextBatch name
  | drain name bound => exact alike.drain name bound
  | call call => exact alike.call call
  | add | addClause | limit | offset | sortBy =>
      simp only [Workspace.take, alike.executor]
      exact alike.build _
  | fetch | fetchFields | aggregate | uniqueCount | sum | groupBy | count =>
      simp only [Workspace.take, alike.executor]
      exact alike.exchange _ _

theorem run (steps : List Step) :
    workspace.results steps = other.results steps ∧
      (workspace.run steps).Alike related (other.run steps) := by
  induction steps generalizing workspace other with
  | nil => exact ⟨rfl, alike⟩
  | cons step rest ih =>
      obtain ⟨result, after⟩ := alike.take step
      obtain ⟨results, last⟩ := ih after
      refine ⟨?_, last⟩
      rw [Workspace.results, Workspace.results, result, results]

end Alike

/-- What every call keeps of the state of the transport, all steps keep. -/
theorem run_invariant (holds : σ → Prop) (workspace : Workspace α σ)
    (kept : ∀ call state, holds state →
      holds (workspace.session.transport.send call state).2)
    (start : holds workspace.state) (steps : List Step) :
    holds (workspace.run steps).state := by
  have itself : workspace.Alike (fun state state' => state = state' ∧ holds state) workspace :=
    { transport := fun call state _ ⟨same, before⟩ => by
        subst same
        exact ⟨rfl, rfl, kept call state before⟩
      lifetime := rfl, model := rfl, executor := rfl, streams := rfl, state := ⟨rfl, start⟩ }
  exact (itself.run steps).2.state.2

end Workspace

end DocSearch
