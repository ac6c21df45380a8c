import DocSearch.Proofs.Settings.Loading
import DocSearch.Proofs.Settings.Scalars

namespace DocSearch

/-! Settings from the environment. Of the variables that speak of a name the last one counts, over
whatever files say. Credentials come out of the environment as texts that were read for what they
may be, so a text that happens to be a numeral is not always left as it is. -/

namespace Environment

variable {environment : Environment} {name key : String}

/-- The variable gives something for a name of the settings, or below it. -/
def speaksOf (name : String) (assigned : String × String) : Bool :=
  (key? assigned.1).any fun key => (PathStep.ofKey key).head?.any (PathStep.goesTo name)

/-- The last of the variables that speak of a name, with its text. -/
def last? (environment : Environment) (name : String) : Option (String × String) :=
  (environment.filter (speaksOf name)).getLast?

theorem filter_entries (environment : Environment) (name : String) :
    environment.entries.filter (Entry.speaksOf name) =
      Environment.entries (environment.filter (speaksOf name)) := by
  induction environment with
  | nil => rfl
  | cons assigned rest ih =>
      obtain ⟨spelled, text⟩ := assigned
      cases found : key? spelled with
      | none =>
          have silent : speaksOf name (spelled, text) = false := by simp [speaksOf, found]
          rw [List.filter_cons_of_neg (by simp [silent]), ← ih]
          simp only [entries, List.filterMap_cons, found, Option.map_none]
      | some key =>
          have same : speaksOf name (spelled, text) = Entry.speaksOf name (key, entry key text) := by
            simp only [speaksOf, found, Option.any_some, Entry.speaksOf]
          have first : Environment.entries ((spelled, text) :: rest) =
              (key, entry key text) :: Environment.entries rest := by
            simp only [entries, List.filterMap_cons, found, Option.map_some]
          rw [first, List.filter_cons, List.filter_cons, same, ih]
          split
          · simp only [entries, List.filterMap_cons, found, Option.map_some]
          · rfl

theorem given?_entries_eq_none
    (silent : ∀ assigned ∈ environment, speaksOf name assigned = false) :
    Entry.given? name environment.entries = none := by
  have unsaid : environment.filter (speaksOf name) = [] :=
    List.filter_eq_nil_iff.mpr fun assigned member => by simp [silent assigned member]
  rw [Entry.given?, filter_entries, unsaid]
  rfl

theorem isTable_entry (key text : String) : (entry key text).isTable = false := by
  unfold entry
  split
  · rfl
  · split <;> rfl

theorem member?_overlay_entries {spelled text : String}
    (last : environment.last? name = some (spelled, text)) (found : key? spelled = some key)
    (path : (PathStep.ofKey key).tail = []) (target : Entry) :
    (target.overlay environment.entries).member? name = some (entry key text) := by
  obtain ⟨before, ends⟩ := List.getLast?_eq_some_iff.mp last
  have entered : environment.entries.filter (Entry.speaksOf name) =
      Environment.entries before ++ [(key, entry key text)] := by
    rw [filter_entries, ends]
    simp only [entries, List.filterMap_append, List.filterMap_cons, found, Option.map_some,
      List.filterMap_nil]
  have counts : ∀ old, Entry.layOver old (key, entry key text) = entry key text :=
    fun old => Entry.layOver_of_flat old path (isTable_entry key text)
  rw [Entry.member?_overlay, entered, List.foldl_append, List.foldl_cons, List.foldl_nil, counts]

theorem optionalText_entry (plain : key ≠ "hosts") (text wanted : String) :
    (entry key text).optionalText wanted = .ok (some (Scalar.kept text)) := by
  cases read : Scalar.ofText? text with
  | none =>
      simp only [entry, read, if_neg plain, Scalar.kept, Option.bind_none, Option.getD_none]
      rfl
  | some value =>
      have entered : entry key text = .scalar (some origin) value := by simp only [entry, read]
      rw [entered]
      rcases Scalar.ofText?_eq_some read with ⟨b, rfl, -⟩ | ⟨i, rfl, -⟩ | ⟨d, rfl, -⟩
      all_goals rw [Scalar.kept_of_reads read rfl]; rfl

end Environment

namespace Settings

variable {α : Type} {sources : List (List (String × Entry))} {settings : Settings} {files : Files}
  {environment : Environment}

/-- What the sources say of hosts and spans of time is read as in the settings, and is valid. -/
structure Others (sources : List (List (String × Entry))) (settings : Settings) : Prop where
  hosts : readMember (sources.foldl Entry.overlay defaults) "hosts" defaultHosts Entry.textList =
    .ok settings.hosts
  hosts_ne_nil : settings.hosts ≠ []
  requestTimeout : readMember (sources.foldl Entry.overlay defaults) "request_timeout_secs" 30
    Entry.seconds = .ok settings.requestTimeout
  requestTimeout_pos : 0 < settings.requestTimeout
  scrollLifetime : readMember (sources.foldl Entry.overlay defaults) "scroll_lifetime_secs" 60
    Entry.seconds = .ok settings.scrollLifetime

theorem exists_of_readMember_seconds {table : Entry} {name : String} {default : Nat} {span : UInt64}
    (read : readMember table name (.ofNat default) Entry.seconds = .ok span) :
    ∃ n, readMember table name default Entry.nat = .ok n ∧ .ofNat n = span := by
  unfold readMember at read ⊢
  cases found : table.member? name with
  | none =>
      rw [found] at read
      exact ⟨default, rfl, Except.ok.inj read⟩
  | some entry =>
      simp only [found, Entry.seconds] at read ⊢
      cases counted : entry.nat name with
      | error e => rw [counted] at read; contradiction
      | ok n => rw [counted] at read; exact ⟨n, rfl, Except.ok.inj read⟩

theorem readMember_of_last {name spelled key text : String}
    (parsed : Settings.sources files environment = .ok sources)
    (last : environment.last? name = some (spelled, text))
    (found : Environment.key? spelled = some key) (path : (PathStep.ofKey key).tail = [])
    (absent : α) (read : String → Entry → Except LoadError α) :
    readMember (sources.foldl Entry.overlay defaults) name absent read =
      read name (Environment.entry key text) := by
  obtain ⟨shared, named, rfl⟩ := sources_eq parsed
  simp only [readMember, List.foldl_cons, List.foldl_nil,
    Environment.member?_overlay_entries last found path]

theorem others_default (silent : ∀ name ∈ ["hosts", "request_timeout_secs", "scroll_lifetime_secs"],
    ∀ assigned ∈ environment, Environment.speaksOf name assigned = false) :
    Others [[], [], environment.entries] default := by
  simp only [List.forall_mem_cons] at silent
  obtain ⟨hosts, timeout, lifetime, -⟩ := silent
  have unsaid : ∀ {name : String},
      (∀ assigned ∈ environment, Environment.speaksOf name assigned = false) →
      ∀ source ∈ [[], [], environment.entries], Entry.given? name source = none := by
    intro name silent source member
    simp only [List.mem_cons, List.not_mem_nil, or_false] at member
    rcases member with rfl | rfl | rfl
    · rfl
    · rfl
    · exact Environment.given?_entries_eq_none silent
  exact {
    hosts := (readMember_of_silent (unsaid hosts) _ _).trans rfl
    hosts_ne_nil := by decide
    requestTimeout := (readMember_of_silent (unsaid timeout) _ _).trans rfl
    requestTimeout_pos := by decide
    scrollLifetime := (readMember_of_silent (unsaid lifetime) _ _).trans rfl }

/-- Credentials of the environment are held as what is left of their texts, whatever files say. A
text is left as it is if it reads as no truth value and no number, or is the one text that is
written for what it reads as; the text of a number has neither a plus nor an exponent then. -/
theorem load_credentials {username password : String}
    (parsed : Settings.sources files environment = .ok sources) (others : Others sources settings)
    (user : environment.last? "username" = some ("OSORM__USERNAME", username))
    (secret : environment.last? "password" = some ("OSORM__PASSWORD", password)) :
    (load files environment).value = .ok { settings with
      username := some (Scalar.kept username)
      password := some (Scalar.kept password) } ∧
    ∀ text, (Scalar.kept text = text ↔ Scalar.Verbatim text) ∧
      ∀ value c, Scalar.ofText? text = some value → (∀ b, value ≠ .boolean b) → c ∈ text.toList →
        Scalar.isPlain c = false → Scalar.kept text ≠ text := by
  refine ⟨?_, fun text => ⟨Scalar.kept_eq_self_iff text, fun value c => Scalar.kept_ne_of_mem⟩⟩
  have userKey : Environment.key? "OSORM__USERNAME" = some "username" := by decide
  have secretKey : Environment.key? "OSORM__PASSWORD" = some "password" := by decide
  have readUser := (readMember_of_last parsed user userKey (by decide) none
    Entry.optionalText).trans (Environment.optionalText_entry (by decide) username "username")
  have readSecret := (readMember_of_last parsed secret secretKey (by decide) none
    Entry.optionalText).trans (Environment.optionalText_entry (by decide) password "password")
  obtain ⟨timeout, readTimeout, sameTimeout⟩ := exists_of_readMember_seconds others.requestTimeout
  obtain ⟨lifetime, readLifetime, sameLifetime⟩ := exists_of_readMember_seconds others.scrollLifetime
  have read : ofTable (sources.foldl Entry.overlay defaults) = .ok { settings with
      username := some (Scalar.kept username)
      password := some (Scalar.kept password) } := by
    unfold ofTable
    rw [others.hosts, readUser, readSecret, readTimeout, readLifetime, ← sameTimeout,
      ← sameLifetime]
    rfl
  have flawless : flaw? { settings with
      username := some (Scalar.kept username)
      password := some (Scalar.kept password) } = none :=
    flaw?_eq_none_iff.mpr ⟨others.hosts_ne_nil, others.requestTimeout_pos, fun _ => rfl⟩
  rw [value_load parsed]
  simp only [ofSources, read, validate, flawless, Except.map]

/-- A name that reads as no number, and a password that does. -/
theorem load_credentials_rewritten :
    let files := Files.ofList ["home", "ada"] []
    let environment : Environment :=
      [("osorm__username", "1"), ("OSORM__USERNAME", "elastic"), ("OSORM__PASSWORD", "+0.50")]
    Settings.sources files environment = .ok [[], [], environment.entries] ∧
      Others [[], [], environment.entries] default ∧
      environment.last? "username" = some ("OSORM__USERNAME", "elastic") ∧
      environment.last? "password" = some ("OSORM__PASSWORD", "+0.50") ∧
      (load files environment).value =
        .ok { default with username := some "elastic", password := some "0.5" } ∧
      Scalar.kept "+0.50" ≠ "+0.50" := by
  intro files environment
  have parsed : Settings.sources files environment = .ok [[], [], environment.entries] :=
    sources_of_absent (fun _ => rfl) environment
  have others : Others [[], [], environment.entries] default := others_default (by decide)
  have user : environment.last? "username" = some ("OSORM__USERNAME", "elastic") := by decide
  have secret : environment.last? "password" = some ("OSORM__PASSWORD", "+0.50") := by decide
  obtain ⟨loaded, kept⟩ := load_credentials parsed others user secret
  have name : Scalar.kept "elastic" = "elastic" := (kept "elastic").1.mpr (.text (by decide))
  have numeral : Scalar.kept "+0.50" = "0.5" := by decide +kernel
  have half : Scalar.ofText? "+0.50" = some (.double (.ofDecimal false 50 (-2))) := by
    decide +kernel
  refine ⟨parsed, others, user, secret, ?_, ?_⟩
  · rw [loaded, name, numeral]
  · exact (kept "+0.50").2 _ '+' half nofun (by decide) (by decide)

/-- Numerals are written out anew, not as they were given. -/
theorem load_rewrites_numerals :
    let files := Files.ofList ["home", "ada"] []
    let environment : Environment := [("OSORM__USERNAME", "007"), ("OSORM__PASSWORD", "1e3")]
    Settings.sources files environment = .ok [[], [], environment.entries] ∧
      Others [[], [], environment.entries] default ∧
      ∃ settings, (load files environment).value = .ok settings ∧
        settings.username = some "7" ∧ settings.password = some "1000" ∧
        settings.username ≠ some "007" ∧ settings.password ≠ some "1e3" := by
  intro files environment
  have parsed : Settings.sources files environment = .ok [[], [], environment.entries] :=
    sources_of_absent (fun _ => rfl) environment
  refine ⟨parsed, others_default (by decide), ?_⟩
  have loaded : (load files environment).value =
      .ok { default with username := some "7", password := some "1000" } := by decide +kernel
  exact ⟨_, loaded, rfl, rfl, by decide, by decide⟩

end Settings

end DocSearch
