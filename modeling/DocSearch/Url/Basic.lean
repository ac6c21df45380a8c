import DocSearch.Host.Basic
import DocSearch.Url.Path

namespace DocSearch

/-! A URL is a scheme and a path; it may have an authority before the path, which is a host with a
user and a port, and a query and a fragment after it. All parts are in normal form. -/

structure Authority where
  /-- The user, percent-encoded; empty if none is given. -/
  username : String := ""
  password : Option String := none
  host : Host
  /-- The port, unless it is the default one. -/
  port : Option Nat := none
  deriving DecidableEq, Repr

structure Url where
  scheme : String
  authority : Option Authority
  path : UrlPath
  query : Option String
  fragment : Option String
  deriving DecidableEq, Repr

namespace Authority

def userText (authority : Authority) : String :=
  authority.username ++ (authority.password.map (":" ++ ·)).getD ""

def text (authority : Authority) : String :=
  let user := authority.userText
  (if user.isEmpty then "" else user ++ "@") ++ authority.host.text ++
    (authority.port.map fun port => ":" ++ toString port).getD ""

end Authority

namespace Url

def hasHost (url : Url) : Bool := url.authority.any fun authority => !authority.host.isEmpty

/-- The text without the fragment, which is not sent. A path that would be read as an authority is
kept apart from the scheme by a dot. -/
def target (url : Url) : String :=
  let start :=
    match url.authority with
    | some authority => "//" ++ authority.text
    | none => if url.path.startsEmpty then "/." else ""
  url.scheme ++ ":" ++ start ++ url.path.text ++ (url.query.map ("?" ++ ·)).getD ""

def text (url : Url) : String := url.target ++ (url.fragment.map ("#" ++ ·)).getD ""

/-- User and password of a URL, decoded, if they are texts. A user that is empty counts only with
a password. -/
def credentials? (url : Url) : Option (String × Option String) := do
  let authority ← url.authority
  let username ← Percent.decode? authority.username.toList
  let password := authority.password.bind fun password => Percent.decode? password.toList
  if username.isEmpty && password.isNone then none else some (username, password)

def withoutUser (url : Url) : Url :=
  { url with authority := url.authority.map fun authority =>
      { authority with username := "", password := none } }

end Url

end DocSearch
