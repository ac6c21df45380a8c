import DocSearch.Proofs.Building
import DocSearch.Proofs.Scrolling

namespace DocSearch

/-! What steps send, as a record of the calls shows it: steps that build send nothing, an exchange
sends its own call and nothing else, and a stream sends one call for each item that it yields. -/

variable {α β σ : Type}

namespace Step

/-- What the step adds to the query, if it is one of those that do. -/
def edit? : Step → Option Edit
  | add occur expressions clauses => some (.add occur expressions clauses)
  | addClause occur clause => some (.addClause occur clause)
  | _ => none

end Step

namespace Scroll

theorem receive_keeps (scroll : Scroll α) (outcome : Outcome) :
    (scroll.receive outcome).2.parse = scroll.parse ∧
      (scroll.receive outcome).2.lifetime = scroll.lifetime := by
  cases outcome with
  | error e => exact ⟨rfl, rfl⟩
  | ok response =>
      simp only [receive]
      split <;> exact ⟨rfl, rfl⟩

/-- Polls of a stream, at most so many, with the calls they sent and the items they yielded. -/
inductive Collected : Scroll α → Nat → Record → List (Except Error (List α)) → Prop where
  | bound (scroll : Scroll α) : Collected scroll 0 [] []
  | ended {scroll : Scroll α} {bound : Nat} : scroll.call? = none → Collected scroll bound [] []
  | item {scroll : Scroll α} {bound : Nat} {call : Call} {outcome : Outcome} {record : Record}
      {items : List (Except Error (List α))} : scroll.call? = some call →
      Collected (scroll.receive outcome).2 bound record items →
      Collected scroll (bound + 1) ((call, outcome) :: record)
        ((scroll.receive outcome).1.value :: items)

theorem collect_collected (transport : Transport σ) (bound : Nat) (scroll : Scroll α)
    (state : σ × Record) :
    ∃ record, (scroll.collect transport.recording bound state).2.2.2 = state.2 ++ record ∧
      Collected scroll bound record
        (scroll.collect transport.recording bound state).1.value := by
  induction bound generalizing scroll state with
  | zero => exact ⟨[], (List.append_nil _).symm, .bound scroll⟩
  | succ bound ih =>
      rw [collect, poll]
      cases asked : scroll.call? with
      | none => exact ⟨[], (List.append_nil _).symm, .ended asked⟩
      | some call =>
          let answer := transport.send call state.1
          obtain ⟨record, recorded, collected⟩ := ih (scroll.receive answer.1.value).2
            (answer.2, state.2 ++ [(call, answer.1.value)])
          refine ⟨(call, answer.1.value) :: record, ?_, .item asked collected⟩
          rw [List.append_cons]
          exact recorded

end Scroll

namespace Workspace

theorem take_edit (workspace : Workspace α σ) {step : Step} {edit : Edit}
    (edits : step.edit? = some edit) :
    workspace.take step =
      workspace.build (workspace.executor.modifyQuery fun query => edit.apply query) := by
  cases step <;> cases edits <;> rfl

section Recorded

variable {transport : Transport σ} {workspace : Workspace α (σ × Record)}
  (kept : workspace.session.transport = transport.recording)
include kept

theorem exchange_recorded (exchange : Exchange β) (answer : β → Answer α) :
    ∃ outcome,
      (workspace.exchange exchange answer).2.state.2 =
        workspace.state.2 ++ [(exchange.call, outcome)] ∧
      (workspace.exchange exchange answer).1.value =
        (exchange.receive outcome).value.map answer := by
  simp only [Workspace.exchange, kept]
  exact ⟨_, rfl, rfl⟩

theorem drain_recorded {name : String} {stream : Scroll α} (bound : Nat)
    (found : workspace.streams.lookup name = some stream) :
    ∃ record items, (workspace.drain name bound).2.state.2 = workspace.state.2 ++ record ∧
      (workspace.drain name bound).1.value = .ok (.batches items) ∧
      stream.Collected bound record items := by
  obtain ⟨record, recorded, collected⟩ :=
    stream.collect_collected transport bound workspace.state
  refine ⟨record, _, ?_, ?_, collected⟩
  · simp only [drain, found, kept]
    exact recorded
  · simp only [drain, found, kept]
    rfl

end Recorded

end Workspace

end DocSearch
