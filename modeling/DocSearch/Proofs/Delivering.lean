import DocSearch.Http.Client

namespace DocSearch.Http

/-! What a client sends for a call. A record of the requests is kept beside the network; a call adds
one request to it, or none where no request can be made at its address. -/

variable {ν : Type}

/-- A network that keeps the requests that came, beside its own state. -/
def Network.recording (network : Network ν) : Network (ν × List Request) where
  deliver request state :=
    let (delivery, after) := network.deliver request state.1
    (delivery, (after, state.2 ++ [request]))

namespace Client

theorem of_accepted {settings : Settings} {client : Client}
    (accepted : ofSettings settings = .ok client) :
    client.hosts = settings.hosts.map trimEnd ∧
      client.credentials = settings.username.map fun username => (username, settings.password) := by
  unfold ofSettings at accepted
  split at accepted
  · contradiction
  · split at accepted
    · cases accepted
      exact ⟨rfl, rfl⟩
    · contradiction

theorem hosts_of_accepted {settings : Settings} {client : Client}
    (accepted : ofSettings settings = .ok client) :
    client.hosts = settings.hosts.map trimEnd := (of_accepted accepted).1

theorem credentials_of_accepted {settings : Settings} {client : Client}
    (accepted : ofSettings settings = .ok client) :
    client.credentials = settings.username.map fun username => (username, settings.password) :=
  (of_accepted accepted).2

theorem address_eq_of_hosts {client other : Client} (hosts : other.hosts = client.hosts) :
    other.address = client.address := by
  obtain ⟨_, _, _⟩ := client
  obtain ⟨_, _, _⟩ := other
  cases hosts
  rfl

variable (client : Client) (call : Call)

theorem scheme_requestUrl (parsed : Url) : (requestUrl parsed call).scheme = parsed.scheme := by
  rw [requestUrl, callUrl]
  split <;> split <;> rfl

/-- A request can be made for a call at an address: a host is named there that is spoken to over
HTTP, in plain text or in secret, and the URL can be written into a request. -/
structure Reaches (address : String) (call : Call) (parsed : Url) : Prop where
  read : Url.parse address = .ok parsed
  host : parsed.hasHost = true
  scheme : parsed.scheme = "http" ∨ parsed.scheme = "https"
  sendable : isSendable (requestUrl parsed call) = true

theorem Reaches.parsed_eq {address : String} {call other : Call} {parsed parsed' : Url}
    (reaches : Reaches address call parsed) (reaches' : Reaches address other parsed') :
    parsed = parsed' :=
  Except.ok.inj (reaches.read.symm.trans reaches'.read)

theorem prepare_ok_iff {call : Call} {address : String} {parsed url : Url} :
    prepare address call = .ok (parsed, url) ↔
      Reaches address call parsed ∧ url = requestUrl parsed call := by
  constructor
  · intro prepared
    unfold prepare at prepared
    cases read : Url.parse address with
    | error fault => simp [read] at prepared
    | ok found =>
        simp only [read, scheme_requestUrl] at prepared
        split at prepared
        · contradiction
        · next host =>
            split at prepared
            · contradiction
            · next scheme =>
                split at prepared
                · contradiction
                · next sendable =>
                    cases prepared
                    rw [← not_or, Classical.not_not] at scheme
                    exact ⟨⟨read, by simpa using host, scheme, by simpa using sendable⟩, rfl⟩
  · rintro ⟨reaches, rfl⟩
    have spoken : ¬ (parsed.scheme ≠ "http" ∧ parsed.scheme ≠ "https") := by
      rw [← not_or, Classical.not_not]
      exact reaches.scheme
    simp only [prepare, reaches.read, reaches.host, scheme_requestUrl, if_neg spoken,
      reaches.sendable, Bool.not_true, Bool.false_eq_true, if_false]

theorem exists_reaches {call : Call} {address : String}
    (prepared : (prepare address call).isOk = true) : ∃ parsed, Reaches address call parsed := by
  cases found : prepare address call with
  | error e => simp [found, Except.isOk, Except.toBool] at prepared
  | ok both => exact ⟨both.1, (prepare_ok_iff.mp found).1⟩

theorem exists_prepare_error {call : Call} {address : String}
    (unreached : ∀ parsed, ¬ Reaches address call parsed) :
    ∃ e, prepare address call = .error e := by
  cases prepared : prepare address call with
  | error e => exact ⟨e, rfl⟩
  | ok both => exact absurd (prepare_ok_iff.mp prepared).1 (unreached both.1)

theorem send_of_unprepared {network : Network ν} {state : State ν} {e : Error}
    (unprepared : prepare (client.address state.calls (callPath call)) call = .error e) :
    client.send network call state =
      (.after (callEvent (client.address state.calls (callPath call)) call) (.error e),
        { state with calls := state.calls + 1 }) := by
  simp only [send, unprepared]

theorem send_of_prepared {network : Network ν} {state : State ν} {parsed url : Url}
    (prepared : prepare (client.address state.calls (callPath call)) call = .ok (parsed, url)) :
    client.send network call state =
      (⟨(readDelivery url
            (network.deliver (client.request call parsed url) state.network).1).value,
          callEvent (client.address state.calls (callPath call)) call ::
            (readDelivery url
              (network.deliver (client.request call parsed url) state.network).1).events⟩,
        { calls := state.calls + 1
          network := (network.deliver (client.request call parsed url) state.network).2 }) := by
  simp only [send, prepared]

/-- The number is taken whatever becomes of the call. -/
theorem calls_send (network : Network ν) (state : State ν) :
    (client.send network call state).2.calls = state.calls + 1 := by
  cases prepared : prepare (client.address state.calls (callPath call)) call with
  | error e => rw [client.send_of_unprepared call prepared]
  | ok both => rw [client.send_of_prepared call prepared]

theorem head?_events_send (network : Network ν) (state : State ν) :
    (client.send network call state).1.events.head? =
      some (callEvent (client.address state.calls (callPath call)) call) := by
  cases prepared : prepare (client.address state.calls (callPath call)) call with
  | error e =>
      rw [client.send_of_unprepared call prepared]
      rfl
  | ok both =>
      rw [client.send_of_prepared call prepared]
      rfl

section Sent

variable {network : Network ν} {state : State (ν × List Request)}

theorem sent_of_reaches {parsed : Url}
    (reaches : Reaches (client.address state.calls (callPath call)) call parsed) :
    (client.send network.recording call state).2.network.2 =
      state.network.2 ++ [client.request call parsed (requestUrl parsed call)] := by
  rw [client.send_of_prepared call (prepare_ok_iff.mpr ⟨reaches, rfl⟩)]
  rfl

theorem sent_of_not_reaches
    (unreached : ∀ parsed, ¬ Reaches (client.address state.calls (callPath call)) call parsed) :
    (client.send network.recording call state).2.network.2 = state.network.2 := by
  obtain ⟨e, unprepared⟩ := exists_prepare_error unreached
  rw [client.send_of_unprepared call unprepared]

end Sent

end Client

end DocSearch.Http
