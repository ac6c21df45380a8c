import DocSearch.Proofs.Executing

namespace DocSearch

/-! Requests reflect the steps before them. A step that builds sends nothing, an exchange sends one
request, made of what the executor was told so far, and a stream begins with a request made of what
the executor was told when the stream was opened. -/

variable {α β σ : Type}

namespace Step

/-- The step builds an executor or a stream. -/
def builds : Step → Bool
  | select | add _ _ _ | addClause _ _ | limit _ | offset _ | sortBy _ | openScroll _ _ => true
  | _ => false

/-- The stream that a step polls, and how often at most. -/
def polls? : Step → Option (String × Nat)
  | nextBatch name => some (name, 1)
  | drain name bound => some (name, bound)
  | _ => none

/-- The stream was opened after the steps in `early`, and no step spoke of it since. -/
def Unread (name : String) (before early : List Step) (given : Option Duration) : Prop :=
  ∃ others, before = early ++ openScroll name given :: others ∧
    ∀ other ∈ others, other.Spares name

/-- The calls that a step sends after others. -/
inductive Sends (model : Model α) (lifetime : Duration) (before : List Step) :
    Step → List Call → Prop where
  | builds {step : Step} : step.builds = true → Sends model lifetime before step []
  | fetch : Sends model lifetime before fetch
      [.search (requestOf model (current before) model.fields.names none)]
  | fetchFields (wanted : List String) : Sends model lifetime before (fetchFields wanted)
      [.search (requestOf model (current before) wanted none)]
  | count : Sends model lifetime before count
      [.count (.obj [("query", queryOf model.fields (current before))]) model.index]
  | aggregate (aggregation : Aggregation) : Sends model lifetime before (aggregate aggregation)
      [.search (aggregationOf model (current before) aggregation)]
  | uniqueCount (field : String) : Sends model lifetime before (uniqueCount field)
      [.search (aggregationOf model (current before) (.cardinality field))]
  | sum (field : String) : Sends model lifetime before (sum field)
      [.search (aggregationOf model (current before) (.sum field))]
  | groupBy (field : String) (maxBuckets : Nat) :
      Sends model lifetime before (groupBy field maxBuckets)
        [.search (aggregationOf model (current before) (.terms field maxBuckets none))]
  /-- The first poll of a stream searches as the executor stood when the stream was opened. -/
  | opened {step : Step} {name : String} {bound : Nat} {early : List Step}
      {given : Option Duration} {further : List Call} :
      step.polls? = some (name, bound + 1) → Unread name before early given →
      further.length ≤ bound →
      (∀ call ∈ further, ∃ cursor, call = .scroll cursor (given.getD lifetime)) →
      Sends model lifetime before step (.search (requestOf model (current early)
        model.fields.names (some (given.getD lifetime))) :: further)
  | polled {step : Step} {name : String} {bound : Nat} {calls : List Call} :
      step.polls? = some (name, bound) →
      (∀ early given, Unread name before early given → bound = 0) →
      calls.length ≤ bound → (∀ call ∈ calls, ∃ cursor given, call = .scroll cursor given) →
      Sends model lifetime before step calls
  | call (call : Call) : Sends model lifetime before (.call call) [call]

/-- The calls of steps in order, each step after those before it. -/
inductive Traffic (model : Model α) (lifetime : Duration) : List Step → List Call → Prop where
  | none : Traffic model lifetime [] []
  | step {before : List Step} {step : Step} {calls sent : List Call} :
      Traffic model lifetime before calls → Sends model lifetime before step sent →
      Traffic model lifetime (before ++ [step]) (calls ++ sent)

end Step

namespace Scroll

variable {scroll : Scroll α}

theorem nextState_started (page : Page α) (request : SearchRequest) :
    page.nextState ≠ .start request := by
  rw [Page.nextState]
  split
  · split <;> simp
  · simp

theorem receive_started (outcome : Outcome) (request : SearchRequest) :
    (scroll.receive outcome).2.state ≠ .start request := by
  cases outcome with
  | error e => simp [receive]
  | ok response =>
      simp only [receive]
      split
      · exact nextState_started _ request
      · simp

/-- A stream that has begun goes on under cursors. -/
theorem Collected.scrolls {bound : Nat} {record : Record} {items : List (Except Error (List α))}
    (collected : scroll.Collected bound record items)
    (begun : ∀ request, scroll.state ≠ .start request) :
    record.length ≤ bound ∧
      ∀ call ∈ record.map Prod.fst, ∃ cursor, call = .scroll cursor scroll.lifetime := by
  induction collected with
  | bound | ended => simp
  | @item scroll bound call outcome record items asked _ ih =>
      obtain ⟨length, further⟩ := ih (receive_started outcome)
      rw [(scroll.receive_keeps outcome).2] at further
      have first : ∃ cursor, call = .scroll cursor scroll.lifetime := by
        cases state : scroll.state with
        | start request => exact absurd state (begun request)
        | next cursor => exact ⟨cursor, by simpa [call?, state, eq_comm] using asked⟩
        | done => simp [call?, state] at asked
      refine ⟨by simpa using length, ?_⟩
      intro other member
      rcases List.mem_cons.mp member with rfl | member
      · exact first
      · exact further other member

theorem Collected.searches {bound : Nat} {record : Record}
    {items : List (Except Error (List α))} {request : SearchRequest}
    (collected : scroll.Collected (bound + 1) record items)
    (fresh : scroll.state = .start request) :
    ∃ further, record.map Prod.fst = .search request :: further ∧ further.length ≤ bound ∧
      ∀ call ∈ further, ∃ cursor, call = .scroll cursor scroll.lifetime := by
  cases collected with
  | ended quiet => simp [call?, fresh] at quiet
  | @item _ _ call outcome record items asked tail =>
      obtain ⟨length, further⟩ := tail.scrolls (receive_started outcome)
      rw [(scroll.receive_keeps outcome).2] at further
      obtain rfl : .search request = call := by simpa [call?, fresh] using asked
      exact ⟨record.map Prod.fst, rfl, by simpa using length, further⟩

end Scroll

namespace Workspace

theorem take_state_of_builds (workspace : Workspace α σ) {step : Step}
    (builds : step.builds = true) :
    (workspace.take step).2.state = workspace.state := by
  cases step with
  | openScroll name given => cases given <;> rfl
  | select | add | addClause | limit | offset | sortBy =>
      simp only [take, build]
      split <;> rfl
  | _ => contradiction

section Streams

variable {workspace : Workspace α σ} {name : String}

theorem lookup_openScroll (workspace : Workspace α σ) (name : String)
    (given : Option Duration) :
    let executor := workspace.executor
    let kept := given.getD executor.scrollLifetime
    (workspace.take (.openScroll name given)).2.streams.lookup name = some {
      parse := executor.model.parse, lifetime := kept
      state := .start (executor.pageRequest (some kept)) } := by
  cases given <;> exact Keyed.lookup_insert_self _ _ _

theorem nextBatch_started (stream : Scroll α) (request : SearchRequest)
    (fresh : stream.state = .start request) :
    (workspace.nextBatch name).2.streams.lookup name ≠ some stream := by
  intro found
  unfold nextBatch at found
  split at found
  · rename_i absent
    rw [absent] at found
    contradiction
  · rename_i stream' held
    cases asked : stream'.call? with
    | none =>
        simp only [Scroll.poll, asked, lookup_dropStream_self] at found
        contradiction
    | some call =>
        simp only [Scroll.poll, asked] at found
        rw [putStream, Keyed.lookup_insert_self, Option.some.injEq] at found
        exact Scroll.receive_started _ request (found ▸ fresh)

theorem drain_started (bound : Nat) :
    (workspace.drain name bound).2.streams.lookup name = none := by
  unfold drain
  split
  · assumption
  · exact lookup_dropStream_self _ name

/-- A stream that was not polled yet was just opened, or it was there before the step. -/
theorem started_take {step : Step} {stream : Scroll α} {request : SearchRequest}
    (found : (workspace.take step).2.streams.lookup name = some stream)
    (fresh : stream.state = .start request) :
    (∃ given, step = .openScroll name given) ∨
      step.Spares name ∧ workspace.streams.lookup name = some stream := by
  by_cases spared : step.Spares name
  · exact .inr ⟨spared, workspace.lookup_take_of_spares spared ▸ found⟩
  · cases step with
    | openScroll other given =>
        obtain rfl : other = name := not_not.mp spared
        exact .inl ⟨given, rfl⟩
    | nextBatch other =>
        obtain rfl : other = name := not_not.mp spared
        exact absurd found (nextBatch_started stream request fresh)
    | drain other bound =>
        obtain rfl : other = name := not_not.mp spared
        rw [take, drain_started] at found
        contradiction
    | _ => exact absurd trivial spared

variable (session : Session σ) (model : Model α) (state : σ)

theorem unread_of_started {steps : List Step} {stream : Scroll α} {request : SearchRequest}
    (found : ((new session model state).run steps).streams.lookup name = some stream)
    (fresh : stream.state = .start request) :
    ∃ early given, Step.Unread name steps early given := by
  -- By the last step: it opened the stream, or the stream was there before it.
  induction steps using List.reverseRecOn with
  | nil => contradiction
  | append_singleton steps step ih =>
      rw [run_concat] at found
      rcases started_take found fresh with ⟨given, rfl⟩ | ⟨spared, before⟩
      · exact ⟨steps, given, [], rfl, nofun⟩
      · obtain ⟨early, given, others, shape, spare⟩ := ih before
        refine ⟨early, given, others ++ [step], by simp [shape], ?_⟩
        intro other member
        rcases List.mem_append.mp member with member | member
        · exact spare other member
        · exact List.mem_singleton.mp member ▸ spared

theorem lookup_of_unread {steps early : List Step} {given : Option Duration}
    (unread : Step.Unread name steps early given) :
    let kept := given.getD session.scrollLifetime
    ((new session model state).run steps).streams.lookup name = some {
      parse := model.parse, lifetime := kept
      state := .start (Step.requestOf model (Step.current early) model.fields.names
        (some kept)) } := by
  obtain ⟨others, rfl, spare⟩ := unread
  have built := builtBy_run session model state early
  rw [run_append, run_cons, lookup_run_of_spares _ spare, lookup_openScroll]
  simp only [Executor.pageRequest, built.searchRequest_eq, built.model_eq, built.lifetime_eq]

end Streams

section Recorded

variable {transport : Transport σ} {workspace : Workspace α (σ × Record)}
  (kept : workspace.session.transport = transport.recording)
include kept

theorem nextBatch_recorded {name : String} {stream : Scroll α}
    (found : workspace.streams.lookup name = some stream) :
    ∃ record items, (workspace.take (.nextBatch name)).2.state.2 = workspace.state.2 ++ record ∧
      stream.Collected 1 record items := by
  cases asked : stream.call? with
  | none =>
      obtain ⟨-, same⟩ := nextBatch_ended found asked
      exact ⟨[], [], by rw [same, List.append_nil], .ended asked⟩
  | some call =>
      obtain ⟨outcome, -, recorded, -⟩ := nextBatch_asked kept found asked
      exact ⟨_, _, recorded, .item asked (.bound _)⟩

theorem polls_recorded {step : Step} {name : String} {bound : Nat} {stream : Scroll α}
    (polls : step.polls? = some (name, bound))
    (found : workspace.streams.lookup name = some stream) :
    ∃ record items, (workspace.take step).2.state.2 = workspace.state.2 ++ record ∧
      stream.Collected bound record items := by
  cases step <;> cases polls
  · exact nextBatch_recorded kept found
  · obtain ⟨record, items, recorded, -, collected⟩ := drain_recorded kept bound found
    exact ⟨record, items, recorded, collected⟩

omit kept in
theorem polls_absent {step : Step} {name : String} {bound : Nat}
    (polls : step.polls? = some (name, bound)) (absent : workspace.streams.lookup name = none) :
    (workspace.take step).2.state = workspace.state := by
  cases step <;> cases polls
  · simp only [take, nextBatch, absent]
  · simp only [take, drain, absent]

end Recorded

section Traffic

variable (session : Session σ) (model : Model α) (state : σ)

def calls (workspace : Workspace α (σ × Record)) : List Call := workspace.state.2.map Prod.fst

theorem builds_sends {workspace : Workspace α (σ × Record)} {step : Step}
    (builds : step.builds = true) : (workspace.take step).2.calls = workspace.calls ++ [] := by
  simp only [calls, workspace.take_state_of_builds builds, List.append_nil]

theorem exchange_sends {transport : Transport σ} {workspace : Workspace α (σ × Record)}
    (kept : workspace.session.transport = transport.recording) (exchange : Exchange β)
    (answer : β → Answer α) :
    (workspace.exchange exchange answer).2.calls = workspace.calls ++ [exchange.call] := by
  obtain ⟨outcome, recorded, -⟩ := exchange_recorded kept exchange answer
  simp only [calls, recorded, List.map_append, List.map_cons, List.map_nil]

theorem sends_of_collected {steps : List Step} {step : Step} {name : String} {bound : Nat}
    {stream : Scroll α} {record : Record} {items : List (Except Error (List α))}
    (polls : step.polls? = some (name, bound))
    (found : ((new session model state).run steps).streams.lookup name = some stream)
    (collected : stream.Collected bound record items) :
    Step.Sends model session.scrollLifetime steps step (record.map Prod.fst) := by
  -- A stream has not begun exactly if nothing spoke of it since it was opened.
  by_cases fresh : ∃ early given, Step.Unread name steps early given
  · obtain ⟨early, given, unread⟩ := fresh
    have held := (lookup_of_unread session model state unread).symm.trans found
    obtain rfl := Option.some.inj held
    cases bound with
    | zero =>
        cases collected with
        | bound | ended => exact .polled polls (fun _ _ _ => rfl) (by simp) nofun
    | succ bound =>
        obtain ⟨further, shape, length, scrolls⟩ := collected.searches rfl
        rw [shape]
        exact .opened polls unread length scrolls
  · have begun : ∀ request, stream.state ≠ .start request := fun request start =>
      fresh (unread_of_started session model state found start)
    obtain ⟨length, scrolls⟩ := collected.scrolls begun
    refine .polled polls (fun early given unread => absurd ⟨early, given, unread⟩ fresh)
      (by simpa using length) fun call member => ?_
    obtain ⟨cursor, rfl⟩ := scrolls call member
    exact ⟨cursor, _, rfl⟩

theorem polls_sends {steps : List Step} {step : Step} {name : String} {bound : Nat}
    (polls : step.polls? = some (name, bound)) :
    let workspace := (new session model state).recording.run steps
    ∃ sent, (workspace.take step).2.calls = workspace.calls ++ sent ∧
      Step.Sends model session.scrollLifetime steps step sent := by
  intro workspace
  have kept : workspace.session.transport = session.transport.recording :=
    congrArg Session.transport (run_session _ steps)
  cases found : workspace.streams.lookup name with
  | none =>
      refine ⟨[], ?_, .polled polls ?_ (by simp) nofun⟩
      · simp only [calls, polls_absent polls found, List.append_nil]
      · intro early given unread
        rw [show workspace.streams.lookup name = some _ from
          lookup_of_unread _ model _ unread] at found
        contradiction
  | some stream =>
      obtain ⟨record, items, recorded, collected⟩ := polls_recorded kept polls found
      refine ⟨record.map Prod.fst, by simp only [calls, recorded, List.map_append], ?_⟩
      exact sends_of_collected (new session model state).recording.session model (state, []) polls
        found collected

/-- What one more step sends is told by the steps before it. -/
theorem take_sends (steps : List Step) (step : Step) :
    let workspace := (new session model state).recording.run steps
    ∃ sent, (workspace.take step).2.calls = workspace.calls ++ sent ∧
      Step.Sends model session.scrollLifetime steps step sent := by
  intro workspace
  have kept : workspace.session.transport = session.transport.recording :=
    congrArg Session.transport (run_session _ steps)
  have built : workspace.executor.BuiltBy model session.scrollLifetime (Step.current steps) :=
    builtBy_run (new session model state).recording.session model (state, []) steps
  cases step with
  | select | add | addClause | limit | offset | sortBy | openScroll =>
      exact ⟨[], builds_sends rfl, .builds rfl⟩
  | nextBatch | drain => exact polls_sends session model state rfl
  | call call =>
      refine ⟨[call], ?_, .call call⟩
      simp only [take, Workspace.call, calls, kept, Transport.recording, List.map_append,
        List.map_cons, List.map_nil]
  | fetch =>
      refine ⟨_, exchange_sends kept _ _, ?_⟩
      simp only [Executor.fetch, Exchange.andThen, Executor.fetchFields, built.searchRequest_eq,
        built.model_eq]
      exact .fetch
  | fetchFields wanted =>
      refine ⟨_, exchange_sends kept _ _, ?_⟩
      simp only [Executor.fetchFields, built.searchRequest_eq]
      exact .fetchFields wanted
  | count =>
      refine ⟨_, exchange_sends kept _ _, ?_⟩
      simp only [Executor.count, built.compile_eq, built.model_eq]
      exact .count
  | aggregate aggregation =>
      refine ⟨_, exchange_sends kept _ _, ?_⟩
      rw [built.aggregate_call]
      exact .aggregate aggregation
  | uniqueCount field =>
      refine ⟨_, exchange_sends kept _ _, ?_⟩
      simp only [Executor.uniqueCount, Executor.aggregatePart, Exchange.andThen,
        built.aggregate_call]
      exact .uniqueCount field
  | sum field =>
      refine ⟨_, exchange_sends kept _ _, ?_⟩
      simp only [Executor.sum, Executor.aggregatePart, Exchange.andThen, built.aggregate_call]
      exact .sum field
  | groupBy field maxBuckets =>
      refine ⟨_, exchange_sends kept _ _, ?_⟩
      simp only [Executor.groupBy, Executor.aggregatePart, Exchange.andThen, built.aggregate_call]
      exact .groupBy field maxBuckets

theorem run_traffic (steps : List Step) :
    Step.Traffic model session.scrollLifetime steps
      ((new session model state).recording.run steps).calls := by
  induction steps using List.reverseRecOn with
  | nil => exact .none
  | append_singleton steps step ih =>
      obtain ⟨sent, recorded, sends⟩ := take_sends session model state steps step
      rw [run_concat, recorded]
      exact .step ih sends

/-- The calls of a whole run, whatever the transport answers, are told by its steps: a step that
builds sends nothing, an exchange sends the one call that the executor comes to by the steps since
it was selected, and a stream begins with the search as it stood when the stream was opened and goes
on under cursors. Keeping the record of the calls changes nothing else. -/
theorem run_sends (session : Session σ) (model : Model α) (state : σ) (steps : List Step) :
    let recorded := (new session model state).recording.run steps
    recorded.forget session.transport = (new session model state).run steps ∧
      Step.Traffic model session.scrollLifetime steps recorded.calls ∧
      ∀ step, ∃ sent, (recorded.take step).2.calls = recorded.calls ++ sent ∧
        Step.Sends model session.scrollLifetime steps step sent := by
  intro recorded
  have kept : (new session model state).recording.session.transport =
      session.transport.recording := rfl
  refine ⟨?forgotten, run_traffic session model state steps, take_sends session model state steps⟩
  case forgotten => exact (run_forget kept steps).symm

end Traffic

end Workspace

end DocSearch
