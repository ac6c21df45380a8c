import DocSearch.Duration
import DocSearch.Error
import DocSearch.Record

namespace DocSearch

/-! What a session has to know: the nodes of the cluster, credentials, and two spans of time.
Settings are valid when there is a host, a positive timeout, and no password without a user name.
-/

structure Settings where
  hosts : List String
  username : Option String
  password : Option String
  requestTimeout : UInt64
  /-- Seconds a cursor is kept open unless told otherwise. -/
  scrollLifetime : UInt64
  deriving DecidableEq

inductive SettingsFlaw where
  | noHosts
  | noTimeout
  | passwordWithoutUser
  deriving DecidableEq, Repr

def SettingsFlaw.message : SettingsFlaw → String
  | noHosts => "hosts must not be empty"
  | noTimeout => "request_timeout_secs must be > 0"
  | passwordWithoutUser => "password is set but username is missing"

namespace Settings

def defaultHosts : List String := ["http://localhost:9200"]

def default : Settings where
  hosts := defaultHosts
  username := none
  password := none
  requestTimeout := 30
  scrollLifetime := 60

/-- The first flaw, in the order in which settings are checked. -/
def flaw? (settings : Settings) : Option SettingsFlaw :=
  if settings.hosts.isEmpty then some .noHosts
  else if settings.requestTimeout = 0 then some .noTimeout
  else if settings.password.isSome && settings.username.isNone then some .passwordWithoutUser
  else none

def validate (settings : Settings) : Except Error Unit :=
  match settings.flaw? with
  | some flaw => .error (.config flaw.message)
  | none => .ok ()

def requestTimeoutMillis (settings : Settings) : Nat := settings.requestTimeout.toNat * 1000

def scrollDuration (settings : Settings) : Duration := .ofSeconds settings.scrollLifetime

/-- Settings as a record; only the spans of time have to be there. -/
def schema : Schema where
  name := "SessionConfig"
  members := [
    { name := "hosts", type := .textList, presence := .defaulted defaultHosts },
    { name := "username", type := .optionalText, presence := .defaulted (none : Option String) },
    { name := "password", type := .optionalText, presence := .defaulted (none : Option String) },
    { name := "request_timeout_secs", type := .unsigned 64 },
    { name := "scroll_lifetime_secs", type := .unsigned 64 }]

/-- Reads settings from a value that holds nothing but settings. -/
def ofJson (json : Json) : Except Error Settings :=
  match schema.read json with
  | .ok (hosts, username, password, requestTimeout, scrollLifetime, ()) =>
    .ok {
      hosts, username, password
      requestTimeout := .ofNat requestTimeout
      scrollLifetime := .ofNat scrollLifetime }
  | .error mismatch => .error (.shape mismatch.message)

def toJson (settings : Settings) : Json :=
  .object [
    ("hosts", .ofStrings settings.hosts),
    ("username", (settings.username.map .str).getD .null),
    ("password", (settings.password.map .str).getD .null),
    ("request_timeout_secs", .ofNat settings.requestTimeout.toNat),
    ("scroll_lifetime_secs", .ofNat settings.scrollLifetime.toNat)]

end Settings

end DocSearch
