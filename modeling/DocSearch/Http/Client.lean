import DocSearch.Http.Answer
import DocSearch.Http.Base64
import DocSearch.Http.Posting
import DocSearch.Settings.Basic
import DocSearch.Url.Parser

namespace DocSearch.Http

/-! The client posts calls to the hosts in turn, one request a call. Every call takes the next
number, whatever becomes of it. -/

structure Client where
  /-- The hosts without slashes at the end. -/
  hosts : List String
  hosts_pos : 0 < hosts.length
  credentials : Option (String × Option String)

/-- How many calls were made, modulo the size of the counter, and the network. -/
structure State (ν : Type) where
  calls : UInt64
  network : ν

def trimEnd (text : String) : String := String.ofList (Text.trimEnd (· == '/') text.toList)

def trimStart (text : String) : String := String.ofList (text.toList.dropWhile (· == '/'))

def basicAuthorization (username : String) (password : Option String) : String :=
  "Basic " ++ Base64.encode (username ++ ":" ++ password.getD "")

namespace Client

def ofSettings (settings : Settings) : Except Error Client :=
  match settings.validate with
  | .error e => .error e
  | .ok () =>
    if h : 0 < (settings.hosts.map trimEnd).length then
      .ok {
        hosts := settings.hosts.map trimEnd
        hosts_pos := h
        credentials := settings.username.map fun username => (username, settings.password) }
    else .error (.config SettingsFlaw.noHosts.message)

/-- The host of the call with the given number. -/
def host (client : Client) (number : UInt64) : String :=
  client.hosts.get ⟨number.toNat % client.hosts.length, Nat.mod_lt _ client.hosts_pos⟩

/-- The address of a path on the host whose turn it is. -/
def address (client : Client) (number : UInt64) (path : String) : String :=
  client.host number ++ "/" ++ trimStart path

/-- A user in the address counts before the one of the settings. -/
def authorization (client : Client) (url : Url) : Option String :=
  (url.credentials?.or client.credentials).map fun (username, password) =>
    basicAuthorization username password

/-- The URL that a request for an address goes to; what names a user in it goes into a header. -/
def requestUrl (address : Url) (call : Call) : Url :=
  callUrl (if address.credentials?.isSome then address.withoutUser else address) call

/-- The URL can be written into a request: it is not too long, and the characters of its host are
those of a request line. -/
def isSendable (url : Url) : Bool :=
  url.text.utf8ByteSize ≤ longestUrl && url.authority.all fun authority =>
    authority.host.text.toList.all fun c =>
      !(c == '\"' || c.toNat == 96 || c == '\x7b' || c == '\x7d')
where
  longestUrl : Nat := 65534

/-- The URL of a call, if a request can be made for it. -/
def prepare (address : String) (call : Call) : Except Error (Url × Url) :=
  match Url.parse address with
  | .error fault => .error (.transport ("builder error: " ++ fault.message))
  | .ok parsed =>
    let url := requestUrl parsed call
    if !parsed.hasHost then .error (schemeFailure parsed)
    else if url.scheme ≠ "http" ∧ url.scheme ≠ "https" then .error (schemeFailure url)
    else if !isSendable url then .error (buildFailure url "Parsed Url is not a valid Uri")
    else .ok (parsed, url)

/-- The request for a call, given its address and the URL made of it. -/
def request (client : Client) (call : Call) (parsed url : Url) : Request :=
  { url, authorization := client.authorization parsed, body := (callBody call).render }

def send (client : Client) (network : Network ν) (call : Call) (state : State ν) :
    Logged Outcome × State ν :=
  let address := client.address state.calls (callPath call)
  let posted := callEvent address call
  let calls := state.calls + 1
  match prepare address call with
  | .error e => (.after posted (.error e), { state with calls })
  | .ok (parsed, url) =>
    let (delivery, network) := network.deliver (client.request call parsed url) state.network
    let answer := readDelivery url delivery
    (⟨answer.value, posted :: answer.events⟩, { calls, network })

def transport (client : Client) (network : Network ν) : Transport (State ν) where
  send := client.send network

end Client

end DocSearch.Http
