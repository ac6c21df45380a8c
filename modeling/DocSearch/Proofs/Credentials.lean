import DocSearch.Proofs.Addressing
import DocSearch.Proofs.Delivering
import DocSearch.Proofs.Simulation

namespace DocSearch

/-! Credentials go into one header. Two sessions that differ in nothing but credentials are alike
over a network that answers them alike: they log the same, and send the same but for the header. -/

variable {ν : Type}

namespace Http

/-- The request without what says whose it is. -/
def Request.unsigned (request : Request) : Request := { request with authorization := none }

/-- Replies do not depend on whose a request is. -/
def Network.Blind (network : Network ν) : Prop :=
  ∀ request authorization state,
    network.deliver { request with authorization } state = network.deliver request state

/-- The same requests were sent, but for whose they are. -/
structure State.Alike (state other : State (ν × List Request)) : Prop where
  calls : state.calls = other.calls
  network : state.network.1 = other.network.1
  requests : state.network.2.map Request.unsigned = other.network.2.map Request.unsigned

/-- All requests so far have this header, or none of them has one. -/
def State.SignedAs (header : Option String) (state : State (ν × List Request)) : Prop :=
  ∀ request ∈ state.network.2, request.authorization = header

/-- The header of a user that is given by settings. -/
def basicHeader (username password : Option String) : Option String :=
  username.map fun username => basicAuthorization username password

namespace Client

variable {client other : Client}

theorem transport_alike {network : Network ν} (blind : network.Blind)
    (hosts : other.hosts = client.hosts) :
    (client.transport network.recording).Alike State.Alike
      (other.transport network.recording) := by
  intro call state state' alike
  simp only [transport]
  -- Both prepare the same call for the same address, so either both send or neither does.
  have address : other.address state'.calls (callPath call) =
      client.address state.calls (callPath call) := by
    rw [address_eq_of_hosts hosts, alike.calls]
  cases prepared : prepare (client.address state.calls (callPath call)) call with
  | error e =>
      have prepared' := prepared
      rw [← address] at prepared'
      rw [client.send_of_unprepared call prepared, other.send_of_unprepared call prepared', address]
      exact ⟨rfl, { alike with calls := congrArg (· + 1) alike.calls }⟩
  | ok both =>
      obtain ⟨parsed, url⟩ := both
      have prepared' := prepared
      rw [← address] at prepared'
      have delivered : network.deliver (other.request call parsed url) state'.network.1 =
          network.deliver (client.request call parsed url) state.network.1 := by
        rw [← alike.network]
        exact blind (client.request call parsed url) (other.authorization parsed) state.network.1
      rw [client.send_of_prepared call prepared, other.send_of_prepared call prepared', address]
      simp only [Network.recording, delivered]
      refine ⟨trivial, congrArg (· + 1) alike.calls, rfl, ?_⟩
      rw [List.map_append, List.map_append, alike.requests]
      rfl

theorem signedAs_send {settings : Settings} (accepted : ofSettings settings = .ok client)
    (bare : ∀ host ∈ settings.hosts, EmbedsNoUser host) (network : Network ν) (call : Call)
    {state : State (ν × List Request)}
    (signed : state.SignedAs (basicHeader settings.username settings.password)) :
    (client.send network.recording call state).2.SignedAs
      (basicHeader settings.username settings.password) := by
  by_cases reached : ∃ parsed, Reaches (client.address state.calls (callPath call)) call parsed
  · obtain ⟨parsed, reaches⟩ := reached
    intro request member
    rw [client.sent_of_reaches call reaches] at member
    rcases List.mem_append.mp member with before | now
    · exact signed request before
    · obtain rfl := List.mem_singleton.mp now
      have turn : client.host state.calls ∈ settings.hosts.map trimEnd :=
        hosts_of_accepted accepted ▸ List.get_mem _ _
      obtain ⟨host, member, trimmed⟩ := List.mem_map.mp turn
      have read := reaches.read
      rw [address, ← trimmed] at read
      simp only [Client.request, Client.authorization, bare host member _ _ read, Option.none_or,
        credentials_of_accepted accepted, Option.map_map]
      rfl
  · intro request member
    rw [client.sent_of_not_reaches call (not_exists.mp reached)] at member
    exact signed request member

end Client

end Http

open Http

namespace Session

theorem connect_ok {settings : Settings} {network : Network ν} {session : Session (State ν)}
    (connected : (connect settings network).value = .ok session) :
    ∃ client, Client.ofSettings settings = .ok client ∧
      session.transport = client.transport network ∧
      session.scrollLifetime = settings.scrollDuration ∧
      (connect settings network).events = [.sessionOpened settings.hosts] := by
  unfold connect at connected ⊢
  cases accepted : Client.ofSettings settings with
  | error e =>
      rw [accepted] at connected
      contradiction
  | ok client =>
      rw [accepted] at connected
      obtain rfl := Except.ok.inj connected
      exact ⟨client, rfl, rfl, rfl, rfl⟩

/-- The workspace of a new session, with its own lifetime of cursors or another one. -/
def opened {α σ : Type} (session : Session σ) (lifetime : Option Duration) (model : Model α)
    (state : σ) : Workspace α σ :=
  .new ((lifetime.map session.withScrollLifetime).getD session) model state

variable {α σ τ : Type}

theorem opened_transport (session : Session σ) (lifetime : Option Duration) (model : Model α)
    (state : σ) : (session.opened lifetime model state).session.transport = session.transport := by
  cases lifetime <;> rfl

theorem opened_alike {related : σ → τ → Prop} {session : Session σ} {other : Session τ}
    (alike : session.transport.Alike related other.transport)
    (lifetimes : session.scrollLifetime = other.scrollLifetime) (lifetime : Option Duration)
    (model : Model α) {state : σ} {state' : τ} (holds : related state state') :
    (session.opened lifetime model state).Alike related
      (other.opened lifetime model state') := by
  have changed : ((lifetime.map session.withScrollLifetime).getD session).scrollLifetime =
      ((lifetime.map other.withScrollLifetime).getD other).scrollLifetime := by
    cases lifetime with
    | none => exact lifetimes
    | some lifetime => rfl
  exact {
    transport := by rwa [opened_transport, opened_transport]
    lifetime := changed
    model := rfl
    executor := congrArg (Executor.new model) changed
    streams := rfl
    state := holds }

theorem signedAs_run {settings : Settings} {network : Network ν}
    {session : Session (State (ν × List Request))}
    (connected : (connect settings network.recording).value = .ok session)
    (bare : ∀ host ∈ settings.hosts, EmbedsNoUser host) (lifetime : Option Duration)
    (model : Model α) (start : ν) (steps : List Step) :
    ((session.opened lifetime model ⟨0, (start, [])⟩).run steps).state.SignedAs
      (basicHeader settings.username settings.password) := by
  obtain ⟨client, accepted, transport, -, -⟩ := connect_ok connected
  have unsent : State.SignedAs (basicHeader settings.username settings.password)
      ⟨0, (start, [])⟩ := fun request member => absurd member List.not_mem_nil
  refine Workspace.run_invariant _ _ (fun call state signed => ?_) unsent steps
  rw [opened_transport, transport, Client.transport]
  exact Client.signedAs_send accepted bare network call signed

/-- Sessions that are told apart by nothing but their credentials, over a network that does not ask
for them. Whatever is done, both come to the same results, failures and logs, and send the same
requests but for one header. If no host brings a user along, this header is there exactly if there
is a user name, and says the user name and the password of the settings. -/
theorem credentials_confined {network : Network ν} (blind : network.Blind) {settings : Settings}
    {username password : Option String} {session other : Session (State (ν × List Request))}
    (connected : (connect settings network.recording).value = .ok session)
    (connected' : (connect { settings with username, password } network.recording).value =
      .ok other)
    (lifetime : Option Duration) (model : Model α) (start : ν) (steps : List Step) :
    let first := session.opened lifetime model ⟨0, (start, [])⟩
    let second := other.opened lifetime model ⟨0, (start, [])⟩
    (connect settings network.recording).events =
      (connect { settings with username, password } network.recording).events ∧
    first.results steps = second.results steps ∧
    (first.run steps).state.network.2.map Request.unsigned =
      (second.run steps).state.network.2.map Request.unsigned ∧
    ((∀ host ∈ settings.hosts, EmbedsNoUser host) →
      (first.run steps).state.SignedAs (basicHeader settings.username settings.password) ∧
      (second.run steps).state.SignedAs (basicHeader username password)) := by
  intro first second
  obtain ⟨client, accepted, transport, lifetimes, events⟩ := connect_ok connected
  obtain ⟨client', accepted', transport', lifetimes', events'⟩ := connect_ok connected'
  have hosts : client'.hosts = client.hosts := by
    rw [Client.hosts_of_accepted accepted, Client.hosts_of_accepted accepted']
  have alike : session.transport.Alike State.Alike other.transport := by
    rw [transport, transport']
    exact Client.transport_alike blind hosts
  have started : first.Alike State.Alike second :=
    opened_alike alike (lifetimes.trans lifetimes'.symm) lifetime model ⟨rfl, rfl, rfl⟩
  obtain ⟨results, ended⟩ := started.run steps
  refine ⟨events.trans events'.symm, results, ended.state.requests, fun bare => ⟨?_, ?_⟩⟩
  · exact signedAs_run connected bare lifetime model start steps
  · exact signedAs_run connected' bare lifetime model start steps

/-- Counting with a user and without: one request each, signed and not. -/
theorem credentials_confined_signed :
    let network : Network Unit := ⟨fun request _ =>
      (.answered request.url 200 "\x7b\"count\":7\x7d", ())⟩
    let settings : Settings :=
      { Settings.default with hosts := ["https://a:9200"], username := some "ada" }
    let counted := fun session : Session (State (Unit × List Request)) =>
      ((session.opened none (.raw (.ofList [])) ⟨0, ((), [])⟩).run [.count]).state
    network.Blind ∧ (∀ host ∈ settings.hosts, EmbedsNoUser host) ∧
      ∃ session other, (connect settings network.recording).value = .ok session ∧
        (connect { settings with username := none, password := none }
          network.recording).value = .ok other ∧
        (counted session).network.2.length = 1 ∧
        (counted session).network.2.map Request.unsigned =
          (counted other).network.2.map Request.unsigned ∧
        (counted session).SignedAs (some "Basic YWRhOg==") ∧ (counted other).SignedAs none := by
  intro network settings counted
  have blind : network.Blind := fun _ _ _ => rfl
  have bare : ∀ host ∈ settings.hosts, EmbedsNoUser host := by
    intro host member
    obtain rfl := List.mem_singleton.mp member
    have known : ("https", 443) ∈ Url.spoken := by decide
    have shape : trimEnd "https://a:9200" = "https" ++ "://" ++ "a:9200" := by decide
    exact embedsNoUser_of_named known shape rfl (by decide) (by decide) (by decide)
  obtain ⟨session, connected⟩ :
      ∃ session, (connect settings network.recording).value = .ok session := ⟨_, rfl⟩
  obtain ⟨other, connected'⟩ : ∃ other,
      (connect { settings with username := none, password := none } network.recording).value =
        .ok other := ⟨_, rfl⟩
  obtain ⟨-, -, sent, signed⟩ :=
    credentials_confined blind connected connected' none (.raw (.ofList [])) () [.count]
  obtain ⟨signed, unsigned⟩ := signed bare
  have header : basicHeader settings.username settings.password = some "Basic YWRhOg==" := by
    decide +kernel
  have one : (counted session).network.2.length = 1 := by
    obtain rfl := Except.ok.inj connected
    decide +kernel
  rw [header] at signed
  exact ⟨blind, bare, session, other, connected, connected', one, sent, signed, unsigned⟩

end Session

end DocSearch
