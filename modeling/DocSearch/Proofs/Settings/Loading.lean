import DocSearch.Proofs.Settings.Layering
import DocSearch.Settings.Load

namespace DocSearch

/-! Settings from their sources. Each of them is what the strongest source says that speaks of it,
or else its default; what other sources say of it could as well be left out. -/

variable {α β : Type}

theorem bind_ok_iff {x : Except LoadError α} {f : α → Except LoadError β} {result : β} :
    x >>= f = .ok result ↔ ∃ value, x = .ok value ∧ f value = .ok result := by
  cases x <;> simp [bind, Except.bind]

theorem bind_error_iff {x : Except LoadError α} {f : α → Except LoadError β} {e : LoadError} :
    x >>= f = .error e ↔ x = .error e ∨ ∃ value, x = .ok value ∧ f value = .error e := by
  cases x <;> simp [bind, Except.bind]

/-- A natural number as a count of seconds. -/
def Entry.seconds (key : String) (entry : Entry) : Except LoadError UInt64 :=
  (entry.nat key).map .ofNat

namespace Files

variable {files : Files} {name : String} {members : List (String × Entry)}

/-- What a file comes to that may be missing: what is read in it, or nothing. -/
inductive Gives (files : Files) (name : String) : List (String × Entry) → Prop where
  | read {found : Found} {members : List (String × Entry)} : files.resolve name = .ok found →
      found.format.read found.origin found.content = .ok members → Gives files name members
  | missing {e : LoadError} : files.resolve name = .error e → Gives files name []

theorem optional_ok_iff_gives : files.optional name = .ok members ↔ files.Gives name members := by
  unfold optional
  constructor
  · intro given
    cases resolved : files.resolve name with
    | error e =>
        rw [resolved] at given
        cases given
        exact .missing resolved
    | ok found =>
        simp only [resolved, Found.read] at given
        split at given
        · next read => exact .read resolved (Except.ok.inj given ▸ read)
        · contradiction
  · intro gives
    cases gives with
    | read resolved read => simp only [resolved, Found.read, read]
    | missing resolved => simp only [resolved]

theorem resolve_of_absent (absent : ∀ path, files.file? path = none) :
    files.resolve name = .error (.notFound name) := by
  have formatless : ∀ path, files.formats.findSome? (files.inFormat? path) = none := by
    intro path
    refine List.findSome?_eq_none_iff.mpr fun format _ => List.findSome?_eq_none_iff.mpr ?_
    intro ending _
    cases withEnding? path ending with
    | none => rfl
    | some path => simp [absent path]
  have whole :
      (if endsInDirectory name then none else files.file? (files.fullSteps name)) = none := by
    rw [absent, ite_self]
  simp only [resolve, whole, formatless]

end Files

namespace Settings

variable {sources : List (List (String × Entry))} {settings : Settings}

/-- Reads what the sources say under a name, or takes the default. -/
def readResolved (sources : List (List (String × Entry))) (name : String) (absent : α)
    (read : String → Entry → Except LoadError α) : Except LoadError α :=
  match Entry.resolved? name sources with
  | some entry => read name entry
  | none => .ok absent

/-- Settings, each read from the strongest source that speaks of it. -/
structure Resolved (sources : List (List (String × Entry))) (settings : Settings) : Prop where
  hosts : readResolved sources "hosts" defaultHosts Entry.textList = .ok settings.hosts
  username : readResolved sources "username" none Entry.optionalText = .ok settings.username
  password : readResolved sources "password" none Entry.optionalText = .ok settings.password
  requestTimeout : readResolved sources "request_timeout_secs" 30 Entry.seconds =
    .ok settings.requestTimeout
  scrollLifetime : readResolved sources "scroll_lifetime_secs" 60 Entry.seconds =
    .ok settings.scrollLifetime

/-- The names of settings, each with the check that a value for it can be read. -/
def checks : List (String × (String → Entry → Except LoadError Unit)) := [
  ("hosts", fun key entry => (entry.textList key).map fun _ => ()),
  ("username", fun key entry => (entry.optionalText key).map fun _ => ()),
  ("password", fun key entry => (entry.optionalText key).map fun _ => ()),
  ("request_timeout_secs", fun key entry => (entry.seconds key).map fun _ => ()),
  ("scroll_lifetime_secs", fun key entry => (entry.seconds key).map fun _ => ())]

/-- For every setting, the strongest source that speaks of it gives it a value of its own, under its
plain name. -/
def Flat (sources : List (List (String × Entry))) : Prop :=
  ∀ check ∈ checks, Entry.TopFlat check.1 sources

instance (sources : List (List (String × Entry))) : Decidable (Flat sources) :=
  inferInstanceAs (Decidable (∀ check ∈ checks, Entry.TopFlat check.1 sources))

/-- What the sources say of a setting cannot be read, or what they say is flawed as a whole. -/
inductive Refused (sources : List (List (String × Entry))) : Error → Prop where
  | unreadable {check : String × (String → Entry → Except LoadError Unit)} {entry : Entry}
      {e : LoadError} : check ∈ checks → Entry.resolved? check.1 sources = some entry →
      check.2 check.1 entry = .error e → Refused sources e.toError
  | flawed {settings : Settings} {flaw : SettingsFlaw} : Resolved sources settings →
      settings.flaw? = some flaw → Refused sources (.config flaw.message)

theorem ofTable_congr {table table' : Entry}
    (same : ∀ name, table.member? name = table'.member? name) : ofTable table = ofTable table' := by
  simp only [ofTable, readMember, same]

section Read

variable {name : String} {absent : α} {read : String → Entry → Except LoadError α}

theorem readMember_overlays (flat : Entry.TopFlat name sources)
    (base : readMember defaults name absent read = .ok absent) :
    readMember (sources.foldl Entry.overlay defaults) name absent read =
      readResolved sources name absent read := by
  unfold readMember readResolved at *
  rw [Entry.member?_overlays flat]
  cases Entry.resolved? name sources with
  | none => exact base
  | some entry => rfl

theorem readMember_of_silent (silent : ∀ source ∈ sources, Entry.given? name source = none)
    (absent : α) (read : String → Entry → Except LoadError α) :
    readMember (sources.foldl Entry.overlay defaults) name absent read =
      readMember defaults name absent read := by
  simp only [readMember, Entry.member?_overlays_of_silent silent]

theorem error_of_readResolved {e : LoadError}
    (failed : readResolved sources name absent read = .error e) :
    ∃ entry, Entry.resolved? name sources = some entry ∧ read name entry = .error e := by
  unfold readResolved at failed
  cases resolved : Entry.resolved? name sources with
  | none =>
      rw [resolved] at failed
      contradiction
  | some entry =>
      rw [resolved] at failed
      exact ⟨entry, rfl, failed⟩

theorem readResolved_seconds (default : Nat) :
    readResolved sources name (.ofNat default) Entry.seconds =
      (readResolved sources name default Entry.nat).map .ofNat := by
  unfold readResolved
  split <;> rfl

end Read

theorem flaw?_eq_none_iff : settings.flaw? = none ↔
    settings.hosts ≠ [] ∧ 0 < settings.requestTimeout ∧
      (settings.password.isSome → settings.username.isSome) := by
  unfold flaw?
  by_cases none : settings.hosts = []
  · simp [none]
  · by_cases zero : settings.requestTimeout = 0
    · simp [none, zero]
    · have positive : 0 < settings.requestTimeout := UInt64.pos_iff_ne_zero.mpr zero
      cases settings.username <;> cases settings.password <;> simp [none, zero, positive]

section Flat

variable (flat : Flat sources)
include flat

theorem ofTable_overlays :
    ofTable (sources.foldl Entry.overlay defaults) = (do
      return {
        hosts := ← readResolved sources "hosts" defaultHosts Entry.textList
        username := ← readResolved sources "username" none Entry.optionalText
        password := ← readResolved sources "password" none Entry.optionalText
        requestTimeout := ← readResolved sources "request_timeout_secs" 30 Entry.seconds
        scrollLifetime := ← readResolved sources "scroll_lifetime_secs" 60 Entry.seconds }) := by
  simp only [Flat, checks, List.forall_mem_cons] at flat
  obtain ⟨hosts, username, password, requestTimeout, scrollLifetime, -⟩ := flat
  unfold ofTable
  rw [readMember_overlays hosts (by rfl), readMember_overlays username (by rfl),
    readMember_overlays password (by rfl), readMember_overlays requestTimeout (by rfl),
    readMember_overlays scrollLifetime (by rfl),
    show (30 : UInt64) = .ofNat 30 from rfl, readResolved_seconds,
    show (60 : UInt64) = .ofNat 60 from rfl, readResolved_seconds]
  cases readResolved sources "request_timeout_secs" 30 Entry.nat <;>
    cases readResolved sources "scroll_lifetime_secs" 60 Entry.nat <;> rfl

theorem ofTable_ok_iff_resolved :
    ofTable (sources.foldl Entry.overlay defaults) = .ok settings ↔ Resolved sources settings := by
  rw [ofTable_overlays flat]
  simp only [bind_ok_iff]
  constructor
  · rintro ⟨hosts, readHosts, username, readUsername, password, readPassword, requestTimeout,
      readRequestTimeout, scrollLifetime, readScrollLifetime, same⟩
    cases same
    exact ⟨readHosts, readUsername, readPassword, readRequestTimeout, readScrollLifetime⟩
  · intro resolved
    exact ⟨_, resolved.hosts, _, resolved.username, _, resolved.password, _,
      resolved.requestTimeout, _, resolved.scrollLifetime, rfl⟩

theorem refused_of_ofTable {e : LoadError}
    (failed : ofTable (sources.foldl Entry.overlay defaults) = .error e) :
    ∃ check ∈ checks, ∃ entry, Entry.resolved? check.1 sources = some entry ∧
      check.2 check.1 entry = .error e := by
  have refused : ∀ {β : Type} {name : String} {absent : β}
      {read : String → Entry → Except LoadError β},
      (name, fun key entry => (read key entry).map fun _ => ()) ∈ checks →
      readResolved sources name absent read = .error e →
      ∃ check ∈ checks, ∃ entry, Entry.resolved? check.1 sources = some entry ∧
        check.2 check.1 entry = .error e := by
    intro β name absent read listed failed
    obtain ⟨entry, resolved, failed⟩ := error_of_readResolved failed
    exact ⟨_, listed, entry, resolved, by simp only [failed]; rfl⟩
  rw [ofTable_overlays flat] at failed
  simp only [bind_error_iff] at failed
  rcases failed with failed | ⟨_, -, failed | ⟨_, -, failed | ⟨_, -, failed | ⟨_, -, failed |
    ⟨_, -, failed⟩⟩⟩⟩⟩
  · exact refused (by simp [checks]) failed
  · exact refused (by simp [checks]) failed
  · exact refused (by simp [checks]) failed
  · exact refused (by simp [checks]) failed
  · exact refused (by simp [checks]) failed
  · contradiction

theorem ofSources_ok_iff :
    ofSources sources = .ok settings ↔ Resolved sources settings ∧ settings.flaw? = none := by
  rw [← ofTable_ok_iff_resolved flat]
  cases read : ofTable (sources.foldl Entry.overlay defaults) with
  | error e => simp [ofSources, read]
  | ok found =>
      cases flaw : found.flaw? with
      | none =>
          simp only [ofSources, read, validate, flaw, Except.map, Except.ok.injEq]
          exact ⟨fun same => ⟨same, same ▸ flaw⟩, fun same => same.1⟩
      | some flawed =>
          simp only [ofSources, read, validate, flaw, Except.map, Except.ok.injEq]
          refine ⟨nofun, fun ⟨same, flawless⟩ => ?_⟩
          rw [← same, flaw] at flawless
          contradiction

theorem refused_of_ofSources {e : Error} (failed : ofSources sources = .error e) :
    Refused sources e := by
  cases read : ofTable (sources.foldl Entry.overlay defaults) with
  | error fault =>
      obtain ⟨check, listed, entry, resolved, unread⟩ := refused_of_ofTable flat read
      simp only [ofSources, read, Except.error.injEq] at failed
      exact failed ▸ .unreadable listed resolved unread
  | ok found =>
      have resolved := (ofTable_ok_iff_resolved flat).mp read
      cases flaw : found.flaw? with
      | none => simp [ofSources, read, validate, flaw, Except.map] at failed
      | some flawed =>
          simp only [ofSources, read, validate, flaw, Except.map, Except.error.injEq] at failed
          exact failed ▸ .flawed resolved flaw

end Flat

variable {files : Files} {environment : Environment}

/-- The layers of settings over the defaults, the strongest last: a file in a fixed place, the file
that a variable names, and the variables that are settings themselves. -/
inductive Layers (files : Files) (environment : Environment) :
    List (List (String × Entry)) → Prop where
  | named {path : String} {shared named : List (String × Entry)} :
      files.Gives "./config/osorm" shared → environment.lookup "OSORM_CONFIG" = some path →
      files.Gives path named → Layers files environment [shared, named, environment.entries]
  | unnamed {shared : List (String × Entry)} : files.Gives "./config/osorm" shared →
      environment.lookup "OSORM_CONFIG" = none →
      Layers files environment [shared, [], environment.entries]

theorem sources_ok_iff_layers :
    Settings.sources files environment = .ok sources ↔ Layers files environment sources := by
  have place : "./config/" ++ applicationName = "./config/osorm" := by decide
  have spelled : applicationName.map Char.toUpper ++ "_CONFIG" = "OSORM_CONFIG" := by
    decide +kernel
  unfold Settings.sources
  rw [place, spelled]
  cases looked : environment.lookup "OSORM_CONFIG" with
  | none =>
      simp only [bind_ok_iff, Files.optional_ok_iff_gives]
      constructor
      · rintro ⟨shared, gives, named, nothing, same⟩
        cases nothing
        cases same
        exact .unnamed gives looked
      · intro layers
        cases layers with
        | named _ other => rw [looked] at other; contradiction
        | unnamed gives => exact ⟨_, gives, [], rfl, rfl⟩
  | some path =>
      simp only [bind_ok_iff, Files.optional_ok_iff_gives]
      constructor
      · rintro ⟨shared, gives, named, given, same⟩
        cases same
        exact .named gives looked given
      · intro layers
        cases layers with
        | named gives other given =>
            obtain rfl := Option.some.inj (looked.symm.trans other)
            exact ⟨_, gives, _, given, rfl⟩
        | unnamed _ other => rw [looked] at other; contradiction

theorem sources_eq (parsed : Settings.sources files environment = .ok sources) :
    ∃ shared named, sources = [shared, named, environment.entries] := by
  cases sources_ok_iff_layers.mp parsed with
  | named | unnamed => exact ⟨_, _, rfl⟩

theorem sources_of_absent (absent : ∀ path, files.file? path = none) (environment : Environment) :
    Settings.sources files environment = .ok [[], [], environment.entries] := by
  have missing : ∀ name, files.Gives name [] := fun _ => .missing (Files.resolve_of_absent absent)
  rw [sources_ok_iff_layers]
  cases looked : environment.lookup "OSORM_CONFIG" with
  | none => exact .unnamed (missing _) looked
  | some path => exact .named (missing _) looked (missing _)

theorem value_load (parsed : Settings.sources files environment = .ok sources) :
    (load files environment).value = ofSources sources := by
  simp only [load, parsed]
  cases ofSources sources <;> rfl

/-- Sources that come to the same are loaded with the same log. -/
theorem load_congr {sources' : List (List (String × Entry))} {files' : Files}
    {environment' : Environment} (parsed : Settings.sources files environment = .ok sources)
    (parsed' : Settings.sources files' environment' = .ok sources')
    (same : ofSources sources' = ofSources sources) :
    load files' environment' = load files environment := by
  simp only [load, parsed, parsed', same]

/-- Settings are resolved key by key from their layers, which are settled by the files and the
environment. Loading succeeds with what is resolved if that can be read and makes sense together, and
otherwise tells what cannot or does not. What layers below say of a key that a flat layer gives is
hidden, whatever this is: it may be changed or left out. -/
theorem load_layered (layers : Layers files environment sources) :
    (∀ other, Layers files environment other → other = sources) ∧
    (Flat sources →
      (∀ settings, (load files environment).value = .ok settings ↔
        Resolved sources settings ∧ settings.hosts ≠ [] ∧ 0 < settings.requestTimeout ∧
          (settings.password.isSome → settings.username.isSome)) ∧
      ∀ e, (load files environment).value = .error e → Refused sources e) ∧
    ∀ name lower source higher, sources = lower ++ source :: higher → Entry.FlatAt name source →
      (Entry.given? name source).isSome →
      ∀ files' environment' lower', Layers files' environment' (lower' ++ source :: higher) →
        List.Forall₂ (Entry.AgreeBut name) lower lower' →
        load files' environment' = load files environment := by
  have parsed := sources_ok_iff_layers.mpr layers
  refine ⟨fun other layers' => ?_, fun flat => ⟨fun settings => ?_, fun e failed => ?_⟩, ?_⟩
  · have parsed' := sources_ok_iff_layers.mpr layers'
    exact Except.ok.inj (parsed'.symm.trans parsed)
  · rw [value_load parsed, ofSources_ok_iff flat, flaw?_eq_none_iff]
  · rw [value_load parsed] at failed
    exact refused_of_ofSources flat failed
  · intro name lower source higher parts flat gives files' environment' lower' layers' agree
    subst parts
    refine load_congr parsed (sources_ok_iff_layers.mpr layers') ?_
    unfold ofSources
    rw [ofTable_congr fun other =>
      (Entry.member?_overlays_of_hidden flat gives agree defaults other).symm]

/-- A file that is named over the shared one, and hosts of the environment over a table in their
place, which may be there or not. -/
theorem load_layered_overridden :
    let files := fun shared => Files.ofList ["home", "ada"] [
      (["home", "ada", "config", "osorm.json"], shared),
      (["etc", "search.toml"], "scroll_lifetime_secs = 7")]
    let shared :=
      "\x7b\"Hosts\":\x7b\"a\":7\x7d,\"request_timeout_secs\":5,\"scroll_lifetime_secs\":9\x7d"
    let hostless := "\x7b\"request_timeout_secs\":5,\"scroll_lifetime_secs\":9\x7d"
    let environment : Environment := [("OSORM_CONFIG", "/etc/search.toml"),
      ("OSORM__HOSTS", "http://b,http://c"), ("osorm__password", "p"), ("OSORM__USERNAME", "u")]
    let settings : Settings := {
      hosts := ["http://b", "http://c"], username := some "u", password := some "p"
      requestTimeout := 5, scrollLifetime := 7 }
    ∃ sources, Layers (files shared) environment sources ∧ Flat sources ∧
      (load (files shared) environment).value = .ok settings ∧ Resolved sources settings ∧
      load (files hostless) environment = load (files shared) environment := by
  intro files shared hostless environment settings
  let origin := some "config/osorm.json"
  let spans : List (String × Entry) := [
    ("request_timeout_secs", .scalar origin (.integer 5)),
    ("scroll_lifetime_secs", .scalar origin (.integer 9))]
  let first := ("Hosts", .table origin [("a", .scalar origin (.integer 7))]) :: spans
  let second := [("scroll_lifetime_secs",
    Entry.scalar (some "../../etc/search.toml") (.integer 7))]
  have read : FileFormat.json.read "config/osorm.json" shared = .ok first := by decide +kernel
  have read' : FileFormat.json.read "config/osorm.json" hostless = .ok spans := by decide +kernel
  have readNamed : FileFormat.toml.read "../../etc/search.toml" "scroll_lifetime_secs = 7" =
      .ok second := by decide +kernel
  have layers : ∀ {content members},
      FileFormat.json.read "config/osorm.json" content = .ok members →
      Layers (files content) environment [members, second, environment.entries] := by
    intro content members read
    have found : (files content).resolve "./config/osorm" =
        .ok ⟨"config/osorm.json", .json, content⟩ := rfl
    have steps : (files content).fullSteps "/etc/search.toml" = ["etc", "search.toml"] := rfl
    have named : (files content).resolve "/etc/search.toml" =
        .ok ⟨"../../etc/search.toml", .toml, "scroll_lifetime_secs = 7"⟩ := by
      simp only [Files.resolve, steps]
      rfl
    exact .named (.read found read) rfl (.read named readNamed)
  have hosts : (Entry.given? "hosts" environment.entries).isSome := by decide +kernel
  have flat : Entry.FlatAt "hosts" environment.entries := by decide +kernel
  have flats : Flat [first, second, environment.entries] := by decide +kernel
  have agree : Entry.AgreeBut "hosts" first spans := by decide +kernel
  have resolved : Resolved [first, second, environment.entries] settings := by
    constructor <;> decide +kernel
  obtain ⟨-, resolves, hides⟩ := load_layered (layers read)
  have loaded := ((resolves flats).1 settings).mpr ⟨resolved, by decide, by decide, fun _ => rfl⟩
  have hidden := hides "hosts" [first, second] environment.entries [] rfl flat hosts
    (files hostless) environment [spans, second] (layers read') (.cons agree (.cons rfl .nil))
  exact ⟨_, layers read, flats, loaded, resolved, hidden⟩

end Settings

end DocSearch
