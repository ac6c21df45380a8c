import DocSearch.Proofs.Delivering
import Mathlib.Data.Int.CardIntervalMod
import Mathlib.Data.List.TakeWhile
import Mathlib.Logic.Relation

namespace DocSearch.Http

/-! Hosts in turn. A call takes its number at once and waits for its answer afterwards, so the calls
of many callers may be out at one time and end in any order. The numbers follow each other all the
same, and the hosts follow the numbers. -/

variable {ν : Type}

section Slashes

/-- The address is the host without slashes at its end, one slash, and the path without slashes at
its start. -/
def Joined (host path address : String) : Prop :=
  ∃ bare name after before,
    host.toList = bare ++ List.replicate after '/' ∧ bare.getLast? ≠ some '/' ∧
    path.toList = List.replicate before '/' ++ name ∧ name.head? ≠ some '/' ∧
    address.toList = bare ++ '/' :: name

/-- The hosts are the same up to slashes at their ends. -/
def SameHost (host other : String) : Prop :=
  ∃ bare after after', host.toList = bare ++ List.replicate after '/' ∧
    other.toList = bare ++ List.replicate after' '/'

theorem slashes_dropWhile (text : List Char) :
    ∃ count, text = List.replicate count '/' ++ text.dropWhile (· == '/') := by
  have slashes : text.takeWhile (· == '/') =
      List.replicate (text.takeWhile (· == '/')).length '/' := by
    refine List.eq_replicate_iff.mpr ⟨rfl, fun c member => ?_⟩
    simpa using List.mem_takeWhile_imp member
  exact ⟨_, by rw [← slashes, List.takeWhile_append_dropWhile]⟩

theorem head?_dropWhile_slash (text : List Char) :
    (text.dropWhile (· == '/')).head? ≠ some '/' := by
  intro first
  have other := List.head?_dropWhile_not (· == '/') text
  rw [first] at other
  simp at other

theorem trimEnd_parts (host : String) :
    ∃ after, host.toList = (trimEnd host).toList ++ List.replicate after '/' ∧
      (trimEnd host).toList.getLast? ≠ some '/' := by
  obtain ⟨after, parts⟩ := slashes_dropWhile host.toList.reverse
  have turned := congrArg List.reverse parts
  rw [List.reverse_append, List.reverse_replicate, List.reverse_reverse] at turned
  simp only [trimEnd, Text.trimEnd, String.toList_ofList, List.getLast?_reverse]
  exact ⟨after, turned, head?_dropWhile_slash _⟩

theorem trimStart_parts (path : String) :
    ∃ before, path.toList = List.replicate before '/' ++ (trimStart path).toList ∧
      (trimStart path).toList.head? ≠ some '/' := by
  obtain ⟨before, parts⟩ := slashes_dropWhile path.toList
  simp only [trimStart, String.toList_ofList]
  exact ⟨before, parts, head?_dropWhile_slash _⟩

theorem joined_trim (host path : String) :
    Joined host path (trimEnd host ++ "/" ++ trimStart path) := by
  obtain ⟨after, ending, last⟩ := trimEnd_parts host
  obtain ⟨before, start, first⟩ := trimStart_parts path
  exact ⟨_, _, after, before, ending, last, start, first, by simp⟩

theorem trimEnd_eq_of_sameHost {host other : String} (same : SameHost host other) :
    trimEnd host = trimEnd other := by
  obtain ⟨bare, after, after', shape, shape'⟩ := same
  have trimmed : ∀ count, Text.trimEnd (· == '/') (bare ++ List.replicate count '/') =
      Text.trimEnd (· == '/') bare := by
    intro count
    have slashes : ∀ c ∈ List.replicate count '/', (c == '/') = true := by simp
    rw [Text.trimEnd, List.reverse_append, List.reverse_replicate,
      List.dropWhile_append_of_pos slashes, Text.trimEnd]
  rw [trimEnd, trimEnd, shape, shape', trimmed, trimmed]

end Slashes

namespace Client

variable {settings : Settings} {client : Client} (accepted : ofSettings settings = .ok client)
include accepted

theorem hosts_pos_of_accepted : 0 < settings.hosts.length := by
  have pos := client.hosts_pos
  rwa [hosts_of_accepted accepted, List.length_map] at pos

/-- Every number, from wherever the count starts again, has its host. -/
theorem joined_address (number : UInt64) (path : String) :
    ∃ host, settings.hosts[number.toNat % settings.hosts.length]? = some host ∧
      Joined host path (client.address number path) := by
  have within : number.toNat % settings.hosts.length < settings.hosts.length :=
    Nat.mod_lt _ (hosts_pos_of_accepted accepted)
  refine ⟨settings.hosts[number.toNat % settings.hosts.length], List.getElem?_eq_getElem within, ?_⟩
  have turn : client.host number =
      trimEnd settings.hosts[number.toNat % settings.hosts.length] := by
    simp only [host, List.get_eq_getElem, hosts_of_accepted accepted, List.getElem_map,
      List.length_map]
  rw [address, turn]
  exact joined_trim _ _

theorem address_eq_of_sameHost {others : Settings} {other : Client}
    (accepted' : ofSettings others = .ok other)
    (same : List.Forall₂ SameHost settings.hosts others.hosts) (number : UInt64) (path : String) :
    other.address number path = client.address number path := by
  have trimmed : others.hosts.map trimEnd = settings.hosts.map trimEnd := by
    generalize settings.hosts = hosts, others.hosts = hosts' at same
    induction same with
    | nil => rfl
    | cons first _ ih => rw [List.map_cons, List.map_cons, trimEnd_eq_of_sameHost first, ih]
  have hosts : other.hosts = client.hosts := by
    rw [hosts_of_accepted accepted, hosts_of_accepted accepted', trimmed]
  rw [address_eq_of_hosts hosts]

end Client

section Counting

variable {n host other : Nat}

theorem count_residue (within : host < n) (bound : Nat) :
    Nat.count (fun number => number % n = host) bound =
      bound / n + if host < bound % n then 1 else 0 := by
  have counted := Nat.count_modEq_card bound (Nat.zero_lt_of_lt within) host
  simpa only [Nat.ModEq, Nat.mod_eq_of_lt within] using counted

theorem countP_range' (start size : Nat) :
    (List.range' start size).countP (fun number => number % n = host) +
      Nat.count (fun number => number % n = host) start =
      Nat.count (fun number => number % n = host) (start + size) := by
  induction size with
  | zero => simp
  | succ size ih =>
      rw [List.range'_1_concat, List.countP_append, ← Nat.add_assoc, Nat.count_succ, ← ih]
      have single : [start + size].countP (fun number => number % n = host) =
          if (start + size) % n = host then 1 else 0 := by
        rw [List.countP_singleton]
        simp only [decide_eq_true_eq]
      rw [single]
      omega

/-- Numbers in a row, as many as there are hosts, name each host once. -/
theorem countP_round (within : host < n) (start : Nat) :
    (List.range' start n).countP (fun number => number % n = host) = 1 := by
  have counted := @countP_range' n host start n
  rw [count_residue within, count_residue within, Nat.add_mod_right,
    Nat.add_div_right _ (Nat.zero_lt_of_lt within)] at counted
  omega

theorem countP_balanced (within : host < n) (within' : other < n) (start size : Nat) :
    (List.range' start size).countP (fun number => number % n = host) ≤
      (List.range' start size).countP (fun number => number % n = other) + 1 := by
  have counted := @countP_range' n host start size
  have counted' := @countP_range' n other start size
  -- Each count is the number of full rounds, and perhaps one more.
  rw [count_residue within, count_residue within] at counted
  rw [count_residue within', count_residue within'] at counted'
  split at counted <;> split at counted <;> split at counted' <;> split at counted' <;> omega

end Counting

/-- A call that has taken its number. -/
structure Turn where
  caller : Nat
  call : Call
  number : UInt64

/-- Callers at work over one client: the calls that wait for an answer, and all calls in the order
in which they took their numbers. -/
structure Callers (ν : Type) where
  state : State ν
  waiting : List Turn := []
  taken : List Turn := []

namespace Client

/-- What becomes of a call after it has taken its number, however many numbers were taken since. -/
def settle (client : Client) (network : Network ν) (turn : Turn) (state : ν) :
    Logged Outcome × ν :=
  let sent := client.send network turn.call { calls := turn.number, network := state }
  (sent.1, sent.2.network)

/-- A call that nothing comes between takes its number and is settled. -/
theorem send_eq_settle (client : Client) (network : Network ν) (caller : Nat) (call : Call)
    (state : State ν) :
    client.send network call state =
      ((client.settle network ⟨caller, call, state.calls⟩ state.network).1,
        { calls := state.calls + 1
          network := (client.settle network ⟨caller, call, state.calls⟩ state.network).2 }) := by
  have counted := client.calls_send call network state
  simp only [settle, ← counted]

/-- One step of any caller. -/
inductive Move (client : Client) (network : Network ν) : Callers ν → Callers ν → Prop where
  | take (callers : Callers ν) (caller : Nat) (call : Call) :
      Move client network callers {
        state := { callers.state with calls := callers.state.calls + 1 }
        waiting := callers.waiting ++ [⟨caller, call, callers.state.calls⟩]
        taken := callers.taken ++ [⟨caller, call, callers.state.calls⟩] }
  /-- The answer comes, whichever of the calls it is for. -/
  | settle (callers : Callers ν) (before after : List Turn) (turn : Turn) :
      callers.waiting = before ++ turn :: after →
      Move client network callers { callers with
        state := { callers.state with
          network := (client.settle network turn callers.state.network).2 }
        waiting := before ++ after }
  /-- A caller gives up waiting. -/
  | abandon (callers : Callers ν) (before after : List Turn) (turn : Turn) :
      callers.waiting = before ++ turn :: after →
      Move client network callers { callers with waiting := before ++ after }

end Client

namespace Callers

/-- Numbers are taken one after the other, and nothing else moves the count. -/
structure Numbered (callers : Callers ν) : Prop where
  calls : callers.state.calls = UInt64.ofNat callers.taken.length
  numbers : callers.taken.map Turn.number = (List.range callers.taken.length).map UInt64.ofNat

theorem Numbered.move {client : Client} {network : Network ν} {callers next : Callers ν}
    (numbered : callers.Numbered) (move : client.Move network callers next) : next.Numbered := by
  cases move with
  | take caller call =>
      refine ⟨?_, ?_⟩
      · rw [numbered.calls, List.length_append, List.length_singleton, UInt64.ofNat_add]
        rfl
      · rw [List.map_append, numbered.numbers, List.length_append, List.length_singleton,
          List.range_succ, List.map_append, List.map_singleton, List.map_singleton, numbered.calls]
  | settle | abandon => exact ⟨numbered.calls, numbered.numbers⟩

theorem numbered_of_reached {client : Client} {network : Network ν} {start : ν}
    {callers : Callers ν} (reached : Relation.ReflTransGen (client.Move network)
      { state := { calls := 0, network := start } } callers) : callers.Numbered := by
  induction reached with
  | refl => exact ⟨rfl, rfl⟩
  | tail _ move ih => exact ih.move move

/-- How many of the calls are for the host at a place. -/
def served (hosts place : Nat) (turns : List Turn) : Nat :=
  turns.countP fun turn => turn.number.toNat % hosts = place

variable {callers : Callers ν} (numbered : callers.Numbered)
include numbered

theorem Numbered.number {k : Nat} {turn : Turn} (found : callers.taken[k]? = some turn) :
    turn.number = UInt64.ofNat k := by
  have within := (List.getElem?_eq_some_iff.mp found).1
  have numbers := congrArg (·[k]?) numbered.numbers
  simpa [found, List.getElem?_range within] using numbers

/-- The numbers of a window in which the count does not start again are in a row. -/
theorem Numbered.window {before window after : List Turn}
    (parts : callers.taken = before ++ window ++ after)
    (unwrapped : before.length % UInt64.size + window.length ≤ UInt64.size) :
    window.map (·.number.toNat) = List.range' (before.length % UInt64.size) window.length := by
  -- The counter stays below its range on the whole window, so nothing is cut off.
  refine List.ext_getElem (by simp) fun i within within' => ?_
  rw [List.length_map] at within
  have found : callers.taken[before.length + i]? = some window[i] := by
    rw [parts, List.append_assoc, List.getElem?_append_right (by omega), Nat.add_sub_cancel_left,
      List.getElem?_append_left within, List.getElem?_eq_getElem within]
  rw [List.getElem_map, numbered.number found, UInt64.toNat_ofNat', List.getElem_range']
  simp only [UInt64.size] at unwrapped ⊢
  omega

theorem Numbered.served_window {before window after : List Turn}
    (parts : callers.taken = before ++ window ++ after)
    (unwrapped : before.length % UInt64.size + window.length ≤ UInt64.size) (hosts place : Nat) :
    served hosts place window =
      (List.range' (before.length % UInt64.size) window.length).countP
        fun number => number % hosts = place := by
  rw [← numbered.window parts unwrapped, List.countP_map]
  rfl

end Callers

/-- The calls of some callers go to the hosts in turn. Calls are counted from zero, in the order in
which they took their numbers. -/
structure Rotated (settings : Settings) (client : Client) (network : Network ν)
    (callers : Callers ν) : Prop where
  counted : callers.state.calls = UInt64.ofNat callers.taken.length
  numbered : ∀ (k : Nat) (turn : Turn), callers.taken[k]? = some turn →
    turn.number.toNat = k % UInt64.size
  /-- Before the count starts again, the calls are for the hosts one after the other. -/
  inTurn : ∀ (k : Nat) (turn : Turn), callers.taken[k]? = some turn → k < UInt64.size →
    ∃ host, settings.hosts[k % settings.hosts.length]? = some host ∧
      Joined host (callPath turn.call) (client.address turn.number (callPath turn.call))
  posted : ∀ turn ∈ callers.taken, ∀ state, (client.settle network turn state).1.events.head? =
    some (callEvent (client.address turn.number (callPath turn.call)) turn.call)
  /-- A call that can be sent to its address is sent there, once, and nothing is sent elsewhere. -/
  sent : ∀ turn ∈ callers.taken, ∀ state parsed,
    Client.Reaches (client.address turn.number (callPath turn.call)) turn.call parsed →
    (client.settle network.recording turn state).2.2 = state.2 ++ [{
      url := Client.requestUrl parsed turn.call
      authorization := client.authorization parsed
      body := (callBody turn.call).render }]
  unsent : ∀ turn ∈ callers.taken, ∀ state,
    (∀ parsed,
      ¬ Client.Reaches (client.address turn.number (callPath turn.call)) turn.call parsed) →
    (client.settle network.recording turn state).2.2 = state.2
  /-- Where the count does not start again, as many calls as there are hosts use each host once. -/
  round : ∀ before window after, callers.taken = before ++ window ++ after →
    before.length % UInt64.size + window.length ≤ UInt64.size →
    window.length = settings.hosts.length →
    ∀ place < settings.hosts.length, Callers.served settings.hosts.length place window = 1
  balanced : ∀ before window after, callers.taken = before ++ window ++ after →
    before.length % UInt64.size + window.length ≤ UInt64.size →
    ∀ place < settings.hosts.length, ∀ other < settings.hosts.length,
      Callers.served settings.hosts.length place window ≤
        Callers.served settings.hosts.length other window + 1

namespace Client

variable {settings : Settings} {client : Client}

theorem rotated_of_numbered (accepted : ofSettings settings = .ok client) (network : Network ν)
    {callers : Callers ν} (numbered : callers.Numbered) :
    Rotated settings client network callers where
  counted := numbered.calls
  numbered := by
    intro k turn found
    rw [numbered.number found]
    exact UInt64.toNat_ofNat'
  inTurn := by
    intro k turn found within
    have number : turn.number.toNat = k := by
      rw [numbered.number found, UInt64.toNat_ofNat']
      exact Nat.mod_eq_of_lt within
    have joined := joined_address accepted turn.number (callPath turn.call)
    rwa [number] at joined
  posted := by
    intro turn _ state
    simp only [settle]
    exact client.head?_events_send turn.call network _
  sent := by
    intro turn _ state parsed reaches
    simp only [settle]
    exact client.sent_of_reaches turn.call reaches
  unsent := by
    intro turn _ state unreached
    simp only [settle]
    exact client.sent_of_not_reaches turn.call unreached
  round := by
    intro before window after parts unwrapped all place within
    rw [numbered.served_window parts unwrapped, all]
    exact countP_round within _
  balanced := by
    intro before window after parts unwrapped place within other within'
    rw [numbered.served_window parts unwrapped, numbered.served_window parts unwrapped]
    exact countP_balanced within within' _ _

/-- Calls in any order, of any callers, with any outcomes. Each takes one number, whatever becomes
of it; the numbers are in a row, and the hosts follow them. Every number there is, also after the
count has started again, is that of a host, and slashes at the ends of the hosts are the same as
none. -/
theorem hosts_rotate (accepted : ofSettings settings = .ok client) (network : Network ν)
    (start : ν) {callers : Callers ν}
    (reached : Relation.ReflTransGen (client.Move network)
      { state := { calls := 0, network := start } } callers) :
    Rotated settings client network callers ∧
    (∀ caller call state, client.send network call state =
      let settled := client.settle network ⟨caller, call, state.calls⟩ state.network
      (settled.1, { calls := state.calls + 1, network := settled.2 })) ∧
    (∀ (number : UInt64) (path : String),
      number.toNat % settings.hosts.length < settings.hosts.length ∧
      ∃ host, settings.hosts[number.toNat % settings.hosts.length]? = some host ∧
        Joined host path (client.address number path)) ∧
    ∀ others other, ofSettings others = .ok other →
      List.Forall₂ SameHost settings.hosts others.hosts →
      ∀ number path, other.address number path = client.address number path := by
  have numbered := Callers.numbered_of_reached reached
  refine ⟨rotated_of_numbered accepted network numbered, ?_, ?_, ?_⟩
  · exact fun caller call state => client.send_eq_settle network caller call state
  · intro number path
    exact ⟨Nat.mod_lt _ (hosts_pos_of_accepted accepted), joined_address accepted number path⟩
  · intro others other accepted' same number path
    exact address_eq_of_sameHost accepted accepted' same number path

/-- Two calls are out at one time; the second one is answered first, the first one is given up, and
a third one goes to the first host again. -/
theorem hosts_rotate_interleaved :
    let settings : Settings := { Settings.default with hosts := ["http://a:9200//", "https://b"] }
    let count : Call := .count .null "logs"
    let scroll : Call := .scroll "" (.ofSeconds 60)
    let network : Network Unit := ⟨fun request _ => (.answered request.url 503 "", ())⟩
    let start : Callers Unit := { state := { calls := 0, network := () } }
    let callers : Callers Unit := {
      state := { calls := 3, network := () }
      waiting := [⟨1, count, 2⟩]
      taken := [⟨1, count, 0⟩, ⟨2, scroll, 1⟩, ⟨1, count, 2⟩] }
    ∃ client, ofSettings settings = .ok client ∧
      Relation.ReflTransGen (client.Move network) start callers ∧
      Rotated settings client network callers ∧
      (∀ turn ∈ callers.taken, ∃ parsed,
        Reaches (client.address turn.number (callPath turn.call)) turn.call parsed) ∧
      (callers.taken.map fun turn =>
        (client.settle network.recording turn ((), [])).2.2.map (·.url.text)) =
          [["http://a:9200/logs/_count"], ["https://b/_search/scroll"],
            ["http://a:9200/logs/_count"]] := by
  intro settings count scroll network start callers
  let client : Client := {
    hosts := settings.hosts.map trimEnd
    hosts_pos := Nat.zero_lt_two
    credentials := none }
  have accepted : ofSettings settings = .ok client := rfl
  have reached : Relation.ReflTransGen (client.Move network) start callers := by
    have one : Relation.ReflTransGen (client.Move network) start _ := .single (.take _ 1 count)
    have two := one.tail (.take _ 2 scroll)
    have answered := two.tail (.settle _ [⟨1, count, 0⟩] [] ⟨2, scroll, 1⟩ rfl)
    rw [Subsingleton.elim (client.settle network _ _).2 ()] at answered
    have left := answered.tail (.abandon _ [] [] ⟨1, count, 0⟩ rfl)
    exact left.tail (.take _ 1 count)
  obtain ⟨rotated, -⟩ := hosts_rotate accepted network () reached
  have reaching : ∀ turn ∈ callers.taken, ∃ parsed,
      Reaches (client.address turn.number (callPath turn.call)) turn.call parsed := by
    have prepared : ∀ turn ∈ callers.taken,
        (prepare (client.address turn.number (callPath turn.call)) turn.call).isOk = true := by
      decide +kernel
    exact fun turn member => exists_reaches (prepared turn member)
  exact ⟨client, accepted, reached, rotated, reaching, by decide +kernel⟩

end Client

end DocSearch.Http
