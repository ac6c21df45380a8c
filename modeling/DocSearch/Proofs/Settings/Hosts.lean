import DocSearch.Proofs.Settings.Environment

namespace DocSearch

/-! Hosts from the environment. A text with a comma in it reads as no truth value and no number, so
a list of several hosts is always taken apart at its commas. A single host is a list only if it
reads as neither. -/

namespace Scalar

theorem mem_splitSign {text : List Char} (comma : ',' ∈ text) : ',' ∈ (splitSign text).2 := by
  unfold splitSign
  split <;> simpa using comma

theorem unsigned?_of_comma {text : List Char} (comma : ',' ∈ text) : unsigned? text = none := by
  have mixed : text.all Char.isDigit = false := by
    rw [List.all_eq_false]
    exact ⟨',', comma, by decide⟩
  simp [unsigned?, mixed]

theorem lowercase_ne_of_comma {text name : String} (comma : ',' ∈ text.toList)
    (plain : ',' ∉ name.toList) : Text.lowercase text ≠ name := by
  rintro rfl
  refine plain ?_
  rw [Text.lowercase, String.toList_ofList, List.mem_map]
  exact ⟨',', comma, by decide⟩

theorem boolean?_of_comma {text : String} (comma : ',' ∈ text.toList) : boolean? text = none := by
  have notTrue : Text.lowercase text ≠ "true" := lowercase_ne_of_comma comma (by decide)
  have notFalse : Text.lowercase text ≠ "false" := lowercase_ne_of_comma comma (by decide)
  simp only [boolean?, notTrue, notFalse, if_false]

theorem integer?_of_comma {text : String} (comma : ',' ∈ text.toList) : integer? text = none := by
  simp only [integer?, unsigned?_of_comma (mem_splitSign comma)]

theorem power?_of_comma {text : List Char} (comma : ',' ∈ text) : power? text = none := by
  simp only [power?, unsigned?_of_comma (mem_splitSign comma)]
  rfl

theorem mem_dropWhile_isDigit {text : List Char} (comma : ',' ∈ text) :
    ',' ∈ text.dropWhile Char.isDigit := by
  rw [← List.takeWhile_append_dropWhile (p := Char.isDigit) (l := text), List.mem_append] at comma
  refine comma.resolve_left fun digits => ?_
  have digit := List.all_eq_true.mp List.all_takeWhile ',' digits
  contradiction

theorem decimal?_of_comma {negative : Bool} {text : List Char} (comma : ',' ∈ text) :
    decimal? negative text = none := by
  unfold decimal?
  extract_lets whole rest
  have past : ',' ∈ rest := mem_dropWhile_isDigit comma
  clear_value rest
  split
  next fraction left read =>
  -- Whether a point was read or not, the comma is still to come.
  have behind : ',' ∈ left := by
    split at read
    · next digits =>
        cases read
        have after : ',' ∈ digits := (List.mem_cons.mp past).resolve_left (by decide)
        exact mem_dropWhile_isDigit after
    · cases read
      exact past
  extract_lets power
  have powerless : power = none := by
    cases left with
    | nil => contradiction
    | cons e digits =>
        by_cases letter : (e == 'e' || e == 'E') = true
        · have differs : ',' ≠ e := by
            rintro rfl
            contradiction
          have after : ',' ∈ digits := (List.mem_cons.mp behind).resolve_left differs
          simp only [power, letter, if_true, power?_of_comma after]
        · simp only [power, letter]
          rfl
  rw [powerless, Option.map_none, ite_self]

theorem double?_of_comma {text : String} (comma : ',' ∈ text.toList) : double? text = none := by
  have left := mem_splitSign comma
  have unnamed : ∀ name : String, ',' ∉ name.toList →
      Text.lowercase (String.ofList (splitSign text.toList).2) ≠ name :=
    fun name => lowercase_ne_of_comma (by rwa [String.toList_ofList])
  simp only [double?, unnamed "inf" (by decide), unnamed "infinity" (by decide),
    unnamed "nan" (by decide), or_self, if_false, decimal?_of_comma left]

theorem ofText?_of_comma {text : String} (comma : ',' ∈ text.toList) : ofText? text = none := by
  simp only [ofText?, boolean?_of_comma comma, integer?_of_comma comma, double?_of_comma comma]

end Scalar

namespace Environment

theorem entry_hosts_of_text {text : String} (read : Scalar.ofText? text = none) :
    entry "hosts" text = .list (some origin)
      ((Text.splitAt ',' text).map fun host => .scalar (some origin) (.text host)) := by
  simp only [entry, read, if_true]

theorem ofText?_intercalate {hosts : List String} (given : hosts ≠ [])
    (single : ∀ host, hosts = [host] → Scalar.ofText? host = none) :
    Scalar.ofText? (",".intercalate hosts) = none := by
  cases hosts with
  | nil => contradiction
  | cons first others =>
      cases others with
      | nil =>
          rw [String.intercalate_singleton]
          exact single first rfl
      | cons next others =>
          have comma : ',' ∈ (",".intercalate (first :: next :: others)).toList := by
            rw [String.toList_intercalate]
            simp [List.intercalate]
          exact Scalar.ofText?_of_comma comma

end Environment

theorem Entry.texts_of_scalars (key : String) (origin : Option String) (texts : List String)
    (index : Nat) :
    Entry.texts key index (texts.map fun text => .scalar origin (.text text)) = .ok texts := by
  induction texts generalizing index with
  | nil => rfl
  | cons text rest ih =>
      simp only [List.map_cons, Entry.texts, Entry.text, ih]
      rfl

namespace Settings

variable {sources : List (List (String × Entry))} {settings : Settings} {files : Files}
  {environment : Environment}

/-- What the sources say of credentials and spans of time is read as in the settings, and is
valid. -/
structure BesideHosts (sources : List (List (String × Entry))) (settings : Settings) : Prop where
  username : readMember (sources.foldl Entry.overlay defaults) "username" none
    Entry.optionalText = .ok settings.username
  password : readMember (sources.foldl Entry.overlay defaults) "password" none
    Entry.optionalText = .ok settings.password
  named : settings.password.isSome → settings.username.isSome
  requestTimeout : readMember (sources.foldl Entry.overlay defaults) "request_timeout_secs" 30
    Entry.seconds = .ok settings.requestTimeout
  requestTimeout_pos : 0 < settings.requestTimeout
  scrollLifetime : readMember (sources.foldl Entry.overlay defaults) "scroll_lifetime_secs" 60
    Entry.seconds = .ok settings.scrollLifetime

theorem BesideHosts.ofTable_ok {hosts : List String} (beside : BesideHosts sources settings)
    (read : readMember (sources.foldl Entry.overlay defaults) "hosts" defaultHosts
      Entry.textList = .ok hosts) :
    ofTable (sources.foldl Entry.overlay defaults) = .ok { settings with hosts } := by
  obtain ⟨timeout, readTimeout, sameTimeout⟩ := exists_of_readMember_seconds beside.requestTimeout
  obtain ⟨lifetime, readLifetime, sameLifetime⟩ :=
    exists_of_readMember_seconds beside.scrollLifetime
  unfold ofTable
  rw [read, beside.username, beside.password, readTimeout, readLifetime, ← sameTimeout,
    ← sameLifetime]
  rfl

theorem besideHosts_default
    (silent : ∀ name ∈ ["username", "password", "request_timeout_secs", "scroll_lifetime_secs"],
      ∀ source ∈ sources, Entry.given? name source = none) : BesideHosts sources default := by
  simp only [List.forall_mem_cons] at silent
  obtain ⟨username, password, timeout, lifetime, -⟩ := silent
  exact {
    username := (readMember_of_silent username _ _).trans rfl
    password := (readMember_of_silent password _ _).trans rfl
    named := nofun
    requestTimeout := (readMember_of_silent timeout _ _).trans rfl
    requestTimeout_pos := by decide
    scrollLifetime := (readMember_of_silent lifetime _ _).trans rfl }

theorem ofTable_error_of_hosts {table : Entry} {e : LoadError}
    (failed : readMember table "hosts" defaultHosts Entry.textList = .error e) :
    ofTable table = .error e := by
  unfold ofTable
  rw [failed]
  rfl

/-- Hosts of the environment, joined by commas, are the hosts of the settings whatever files say.
One host alone that reads as a truth value or a number is no list, and is refused. -/
theorem load_hosts {hosts : List String}
    (parsed : Settings.sources files environment = .ok sources)
    (beside : BesideHosts sources settings) (given : hosts ≠ [])
    (commaless : ∀ host ∈ hosts, ',' ∉ host.toList)
    (last : environment.last? "hosts" = some ("OSORM__HOSTS", ",".intercalate hosts)) :
    ((∀ host, hosts = [host] → Scalar.ofText? host = none) →
      (load files environment).value = .ok { settings with hosts }) ∧
    ∀ host value, hosts = [host] → Scalar.ofText? host = some value →
      (load files environment).value = .error (.config
        (LoadError.notList
          (Entry.scalar (some Environment.origin) value).describeScalar).message) := by
  have key : Environment.key? "OSORM__HOSTS" = some "hosts" := by decide
  have read := readMember_of_last parsed last key (by decide) defaultHosts Entry.textList
  rw [value_load parsed]
  constructor
  · intro single
    have listed : (Environment.entry "hosts" (",".intercalate hosts)).textList "hosts" =
        .ok hosts := by
      rw [Environment.entry_hosts_of_text (Environment.ofText?_intercalate given single),
        show "," = String.singleton ',' from rfl, Text.splitAt_intercalate commaless given]
      exact Entry.texts_of_scalars ..
    have flawless : flaw? { settings with hosts } = none :=
      flaw?_eq_none_iff.mpr ⟨given, beside.requestTimeout_pos, beside.named⟩
    simp only [ofSources, beside.ofTable_ok (read.trans listed), validate, flawless, Except.map]
  · rintro host value rfl reads
    have alone : Environment.entry "hosts" (",".intercalate [host]) =
        .scalar (some Environment.origin) value := by
      rw [String.intercalate_singleton]
      simp only [Environment.entry, reads]
    have refused : (Environment.entry "hosts" (",".intercalate [host])).textList "hosts" =
        .error (.notList (Entry.scalar (some Environment.origin) value).describeScalar) := by
      rw [alone]
      rfl
    simp only [ofSources, ofTable_error_of_hosts (read.trans refused), LoadError.toError]

/-- Three hosts over one of a file, one of them empty and one that alone would be a number; and a
host that is a number. -/
theorem load_hosts_over_file :
    let files := Files.ofList ["home", "ada"] [
      (["home", "ada", "config", "osorm.json"], "\x7b\"hosts\":[\"http://z\"]\x7d")]
    let three : Environment := [("OSORM__HOSTS", "http://a,,7")]
    let one : Environment := [("OSORM__HOSTS", "-7")]
    (∃ sources, Settings.sources files three = .ok sources ∧ BesideHosts sources default) ∧
      three.last? "hosts" = some ("OSORM__HOSTS", ",".intercalate ["http://a", "", "7"]) ∧
      (load files three).value = .ok { default with hosts := ["http://a", "", "7"] } ∧
      (load (.ofList [] []) one).value = .error
        (.config "invalid type: integer `-7`, expected a sequence") := by
  intro files three one
  have last : three.last? "hosts" =
      some ("OSORM__HOSTS", ",".intercalate ["http://a", "", "7"]) := by decide
  let origin := some "config/osorm.json"
  let shared := [("hosts", Entry.list origin [.scalar origin (.text "http://z")])]
  have parsed : Settings.sources files three = .ok [shared, [], three.entries] := by
    decide +kernel
  have beside : BesideHosts [shared, [], three.entries] default :=
    besideHosts_default (by decide)
  obtain ⟨listed, -⟩ := load_hosts parsed beside (by decide) (by decide) last
  have unset : BesideHosts [[], [], one.entries] default := besideHosts_default (by decide)
  have number : Scalar.ofText? "-7" = some (.integer (-7)) := by decide
  have lone : one.last? "hosts" = some ("OSORM__HOSTS", ",".intercalate ["-7"]) := by decide
  have fileless : Settings.sources (.ofList [] []) one = .ok [[], [], one.entries] :=
    sources_of_absent (fun _ => rfl) one
  obtain ⟨-, refused⟩ := load_hosts fileless unset (by decide) (by decide) lone
  exact ⟨⟨_, parsed, beside⟩, last, listed (fun _ => nofun), refused "-7" _ rfl number⟩

end Settings

end DocSearch
