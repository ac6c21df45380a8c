import DocSearch.Log
import DocSearch.Settings.Basic
import DocSearch.Settings.Coercion
import DocSearch.Settings.Environment
import DocSearch.Settings.Files
import DocSearch.Settings.Path

namespace DocSearch

/-! Settings are put together key by key from defaults, files and the environment, each laid over
the ones before, and read only then. -/

namespace Settings

/-- The spans of time that hold unless a source says otherwise. -/
def defaults : Entry := .table none [
  ("request_timeout_secs", .scalar none (.integer 30)),
  ("scroll_lifetime_secs", .scalar none (.integer 60))]

/-- Reads an entry of a table, if there is one. -/
def readMember (table : Entry) (key : String) (absent : α)
    (read : String → Entry → Except LoadError α) : Except LoadError α :=
  match table.member? key with
  | some entry => read key entry
  | none => .ok absent

/-- Settings from the table of all sources. -/
def ofTable (table : Entry) : Except LoadError Settings := do
  return {
    hosts := ← readMember table "hosts" defaultHosts Entry.textList
    username := ← readMember table "username" none Entry.optionalText
    password := ← readMember table "password" none Entry.optionalText
    requestTimeout := .ofNat (← readMember table "request_timeout_secs" 30 Entry.nat)
    scrollLifetime := .ofNat (← readMember table "scroll_lifetime_secs" 60 Entry.nat) }

/-- Valid settings from the table of all sources. -/
def ofSources (sources : List (List (String × Entry))) : Except Error Settings :=
  match ofTable (sources.foldl Entry.overlay defaults) with
  | .error e => .error e.toError
  | .ok settings => settings.validate.map fun () => settings

def fromFile (files : Files) (path : String) : Except Error Settings :=
  match files.required path with
  | .error e => .error e.toError
  | .ok file => ofSources [file]

/-- The tables of all sources, the strongest last. -/
def sources (files : Files) (environment : Environment) :
    Except LoadError (List (List (String × Entry))) := do
  let shared ← files.optional ("./config/" ++ applicationName)
  let named ←
    match environment.lookup (applicationName.map Char.toUpper ++ "_CONFIG") with
    | some path => files.optional path
    | none => .ok []
  return [shared, named, environment.entries]

/-- Settings from files and the environment. -/
def load (files : Files) (environment : Environment) : Logged (Except Error Settings) :=
  match sources files environment with
  | .error e => .silent (.error e.toError)
  | .ok sources =>
    match ofSources sources with
    | .error e => .silent (.error e)
    | .ok settings => .after (.settingsLoaded settings.hosts) (.ok settings)

end Settings

end DocSearch
