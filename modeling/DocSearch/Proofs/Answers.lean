import DocSearch.Proofs.Delivering

namespace DocSearch.Http

/-! What becomes of an answer of the cluster. Whether it is refused depends on its status alone, and
an answer that is not refused counts by its body. -/

variable {ν : Type} {status : Nat} {body : String}

def warnings (events : List Event) : List Event := events.filter fun event => event.level = .warn

/-- A status of success. -/
def Status.Fine (status : Nat) : Prop := 200 ≤ status ∧ status < 300

/-- A status that reports an error, of the client or of the server. -/
def Status.Failed (status : Nat) : Prop := 400 ≤ status ∧ status < 600

/-- Only JSON under a status of success is a result. Other statuses are warned of. -/
structure Judged (status : Nat) (body : String) (answer : Logged Outcome) : Prop where
  success : ∀ value, answer.value = .ok value ↔
    Status.Fine status ∧ Json.parse body = .ok value
  refused : ¬ Status.Fine status → (∃ source, answer.value = .error (.transport source)) ∧
    warnings answer.events = [.requestRejected (Status.text status) body]
  unreadable : Status.Fine status → (∀ value, Json.parse body ≠ .ok value) →
    (∃ source, answer.value = .error (.transport source)) ∧ warnings answer.events = []

namespace Client

/-- The call reaches the network, and this is what comes back. -/
def Receives (client : Client) (network : Network ν) (call : Call) (state : State ν) (status : Nat)
    (body : String) : Prop :=
  ∃ parsed url last,
    prepare (client.address state.calls (callPath call)) call = .ok (parsed, url) ∧
      (network.deliver (client.request call parsed url) state.network).1 =
        .answered last status body

theorem isError_iff : Status.isError status = true ↔ Status.Failed status := by
  simp only [Status.isError, Status.isClientError, Status.isServerError, Status.Failed,
    Bool.or_eq_true, Bool.and_eq_true, decide_eq_true_eq]
  omega

theorem not_fine_of_failed (failed : Status.Failed status) : ¬ Status.Fine status := by
  simp only [Status.Failed, Status.Fine] at *
  omega

theorem warnings_callEvent (address : String) (call : Call) (events : List Event) :
    warnings (callEvent address call :: events) = warnings events := by
  cases call <;> rfl

variable {client : Client} {network : Network ν} {call : Call} {state : State ν}

theorem send_of_failed (received : client.Receives network call state status body)
    (failed : Status.Failed status) :
    (∃ source, (client.send network call state).1.value = .error (.transport source)) ∧
      warnings (client.send network call state).1.events =
        [.requestRejected (Status.text status) body] := by
  obtain ⟨parsed, url, last, prepared, answered⟩ := received
  rw [client.send_of_prepared call prepared, answered]
  simp only [readDelivery, if_pos (isError_iff.mpr failed), warnings_callEvent]
  exact ⟨⟨_, rfl⟩, rfl⟩

theorem send_of_not_failed (received : client.Receives network call state status body)
    (passed : ¬ Status.Failed status) :
    (∀ value, (client.send network call state).1.value = .ok value ↔
      Json.parse body = .ok value) ∧
      ((∀ value, Json.parse body ≠ .ok value) →
        ∃ source, (client.send network call state).1.value = .error (.transport source)) ∧
      warnings (client.send network call state).1.events = [] := by
  obtain ⟨parsed, url, last, prepared, answered⟩ := received
  rw [client.send_of_prepared call prepared, answered]
  simp only [readDelivery, if_neg (mt isError_iff.mp passed), warnings_callEvent]
  cases read : Json.parse body with
  | ok value =>
      simp only [Logged.value_silent]
      exact ⟨fun _ => by simp only [Except.ok.injEq], fun unreadable => absurd rfl (unreadable value), rfl⟩
  | error fault => exact ⟨fun _ => ⟨nofun, nofun⟩, fun _ => ⟨_, rfl⟩, rfl⟩

/-- An answer is judged by its status where this is one of success or reports an error. Under any
other status JSON is taken for a result, and nothing is warned of. -/
theorem judged_iff (received : client.Receives network call state status body) :
    (Judged status body (client.send network call state).1 ↔
      Status.Fine status ∨ Status.Failed status) ∧
    (¬ Status.Failed status →
      (∀ value, (client.send network call state).1.value = .ok value ↔
        Json.parse body = .ok value) ∧
      warnings (client.send network call state).1.events = []) := by
  by_cases failed : Status.Failed status
  · obtain ⟨⟨source, refused⟩, warned⟩ := send_of_failed received failed
    have notFine := not_fine_of_failed failed
    refine ⟨iff_of_true ?_ (.inr failed), absurd failed⟩
    refine ⟨fun value => ⟨fun accepted => ?_, fun fine => absurd fine.1 notFine⟩,
      fun _ => ⟨⟨source, refused⟩, warned⟩, fun fine => absurd fine notFine⟩
    rw [refused] at accepted
    exact nomatch accepted
  · obtain ⟨read, unread, silent⟩ := send_of_not_failed received failed
    refine ⟨⟨fun judged => ?_, fun fine => ?_⟩, fun _ => ⟨read, silent⟩⟩
    · refine Classical.byContradiction fun neither => ?_
      have warned := (judged.refused fun fine => neither (.inl fine)).2
      rw [silent] at warned
      exact nomatch warned
    · have fine := fine.resolve_right failed
      exact ⟨fun value => (read value).trans (and_iff_right fine).symm,
        fun notFine => absurd fine notFine, fun _ unreadable => ⟨unread unreadable, silent⟩⟩

/-- An address that can be written into a request is answered by whatever the network says. -/
theorem receives_of_constant {client : Client} {call : Call} {state : State Unit}
    (sendable : (prepare (client.address state.calls (callPath call)) call).isOk = true) :
    client.Receives ⟨fun request _ => (.answered request.url status body, ())⟩ call state
      status body := by
  unfold Receives
  generalize prepare (client.address state.calls (callPath call)) call = prepared at sendable
  cases prepared with
  | error e => exact nomatch sendable
  | ok both => exact ⟨both.1, both.2, _, rfl, rfl⟩

/-- A call for an index that is gone. -/
theorem judged_iff_gone :
    let client : Client := {
      hosts := ["http://a:9200"], hosts_pos := by decide, credentials := none }
    let network : Network Unit := ⟨fun request _ => (.answered request.url 404 "gone", ())⟩
    let call := Call.count (.obj []) "logs"
    client.Receives network call ⟨0, ()⟩ 404 "gone" ∧
      Judged 404 "gone" (client.send network call ⟨0, ()⟩).1 := by
  intro client network call
  have received : client.Receives network call ⟨0, ()⟩ 404 "gone" :=
    receives_of_constant (by decide +kernel)
  exact ⟨received, (judged_iff received).1.mpr (.inr (by unfold Status.Failed; decide))⟩

/-- A choice of documents is taken for a count. -/
theorem choices_not_judged :
    let client : Client := {
      hosts := ["http://a:9200"], hosts_pos := by decide, credentials := none }
    let body := "\x7b\"count\": 7\x7d"
    let network : Network Unit := ⟨fun request _ => (.answered request.url 300 body, ())⟩
    let call := Call.count (.obj []) "logs"
    let answer := (client.send network call ⟨0, ()⟩).1
    client.Receives network call ⟨0, ()⟩ 300 body ∧
      (∃ value, answer.value = .ok value ∧ (value.get? "count").bind Json.nat? = some 7) ∧
      warnings answer.events = [] ∧ ¬ Judged 300 body answer := by
  intro client body network call answer
  have received : client.Receives network call ⟨0, ()⟩ 300 body :=
    receives_of_constant (by decide +kernel)
  obtain ⟨value, parsed, counted⟩ : ∃ value, Json.parse body = .ok value ∧
      (value.get? "count").bind Json.nat? = some 7 := by
    have counted : ((Json.parse body).toOption.bind fun value =>
        (value.get? "count").bind Json.nat?) = some 7 := by decide +kernel
    cases read : Json.parse body with
    | error fault =>
        rw [read] at counted
        exact nomatch counted
    | ok value =>
        rw [read] at counted
        exact ⟨value, rfl, counted⟩
  have passed : ¬ Status.Failed 300 := by unfold Status.Failed; decide
  obtain ⟨read, -, silent⟩ := send_of_not_failed received passed
  refine ⟨received, ⟨value, (read value).mpr parsed, counted⟩, silent, fun judged => ?_⟩
  have warned := (judged.refused (by unfold Status.Fine; decide)).2
  rw [silent] at warned
  exact nomatch warned

end Client

end DocSearch.Http
