import DocSearch.Url.Basic

namespace DocSearch

/-! Reading URLs. Schemes that are known have rules of their own: a backslash counts as a slash,
there is a default port, and the host is looked up. Blanks and controls at the ends do not count.
Neither do line breaks and tabs anywhere, except that one may end a drive. -/

inductive UrlFault where
  | relative
  | badHost (fault : HostFault)
  | invalidPort
  deriving DecidableEq, Repr

def UrlFault.message : UrlFault → String
  | relative => "relative URL without a base"
  | badHost fault => fault.message
  | invalidPort => "invalid port number"

inductive SchemeKind where
  | network (port : Nat)
  | file
  | other
  deriving DecidableEq, Repr

namespace SchemeKind

def ofScheme (scheme : String) : SchemeKind :=
  match scheme with
  | "http" | "ws" => network 80
  | "https" | "wss" => network 443
  | "ftp" => network 21
  | "file" => file
  | _ => other

def isSlash (kind : SchemeKind) (c : Char) : Bool := c == '/' || (kind != other && c == '\\')

def defaultPort? : SchemeKind → Option Nat
  | network port => some port
  | _ => none

def encodedInQuery (kind : SchemeKind) (c : Char) : Bool :=
  UrlPath.isOutsideAscii c || c == ' ' || c == '\"' || c == '#' || c == '<' || c == '>' ||
    (kind != other && c == '\'')

end SchemeKind

namespace Url

def isTrimmed (c : Char) : Bool := c.toNat ≤ 32

def trim (text : List Char) : List Char :=
  Text.trimEnd isTrimmed (text.dropWhile isTrimmed)

/-- The part before a character and, if the character occurs, the part after it. -/
def cut (mark : Char) (text : List Char) : List Char × Option (List Char) :=
  match text.dropWhile (· != mark) with
  | [] => (text, none)
  | _ :: rest => (text.takeWhile (· != mark), some rest)

/-- The part after the last at sign and, if there is one, the part before it. -/
def cutUser (text : List Char) : Option (List Char) × List Char :=
  match cut '@' text.reverse with
  | (host, user) => (user.map List.reverse, host.reverse)

def isSchemeChar (c : Char) : Bool := c.isAlphanum || c == '+' || c == '-' || c == '.'

def isScheme (text : List Char) : Bool := text.head?.any Char.isAlpha && text.all isSchemeChar

def encodedInUser (c : Char) : Bool :=
  UrlPath.encodedInPath c ||
    ['/', ':', ';', '=', '@', '[', '\\', ']', '^', '|'].contains c

def encodedUser (text : List Char) : String := String.ofList (Percent.encode encodedInUser text)

/-- The host and what follows it; a colon between brackets belongs to the host. -/
def splitHost (inBrackets : Bool) : List Char → List Char × List Char
  | [] => ([], [])
  | c :: rest =>
    if c = ':' ∧ !inBrackets then ([], c :: rest)
    else
      let (host, after) := splitHost (c = '[' || (inBrackets && c != ']')) rest
      (c :: host, after)

/-- The port after a colon, unless it is the default one, and what follows it. -/
def readPort (kind : SchemeKind) (text : List Char) : Except UrlFault (Option Nat × List Char) :=
  let digits := text.takeWhile Char.isDigit
  let rest := text.dropWhile Char.isDigit
  if !rest.isEmpty && rest.head? != some '\\' then .error .invalidPort
  else
    match Numeral.value? 10 digits with
    | none => .ok (none, rest)
    | some n =>
      if 65535 < n then .error .invalidPort
      else .ok (if kind.defaultPort? = some n then none else some n, rest)

/-- The authority that a text up to the path writes, and what follows its port. A host may be
missing only where the scheme is not known, and only without a user and a port. -/
def readAuthority (kind : SchemeKind) (text : List Char) :
    Except UrlFault (Authority × List Char) := do
  let (user, text) := cutUser text
  let (username, password) := cut ':' (user.getD [])
  let username := encodedUser username
  let password := (password.filter (!·.isEmpty)).map encodedUser
  let (name, rest) := splitHost false text
  let needed := kind != .other || user == some [] || !username.isEmpty || password.isSome ||
    !rest.isEmpty
  if name.isEmpty && needed then .error (.badHost .empty)
  else
    let host ← (if kind = .other then Host.plain name else Host.resolved name).mapError .badHost
    let (port, rest) ← readPort kind rest.tail
    return ({ username, password, host, port }, rest)

def pathAfter (kind : SchemeKind) (text : List Char) : UrlPath :=
  match text with
  | [] => .rooted (if kind = .other then [] else [""])
  | c :: rest =>
    .rooted (UrlPath.normalSegments []
      (Text.pieces kind.isSlash (if kind.isSlash c then rest else text)))

/-- What follows two slashes. -/
def readAfterSlashes (kind : SchemeKind) (text : List Char) :
    Except UrlFault (Option Authority × UrlPath) := do
  let (authority, rest) ← readAuthority kind (text.takeWhile (!kind.isSlash ·))
  return (some authority, pathAfter kind (rest ++ text.dropWhile (!kind.isSlash ·)))

/-- A path to a file on a host, which does not count where the path starts with a drive. The path
has no empty segments at its start. -/
def fileOn (host : Host) (path : List Char) : Option Authority × UrlPath :=
  let (segments, isOnDrive) :=
    UrlPath.fileSegments [] (Text.pieces (SchemeKind.isSlash .file) path)
  let kept := segments.dropWhile String.isEmpty
  (some { host := if isOnDrive then .name "" else host },
    .rooted (if kept.isEmpty then [""] else kept))

/-- What follows the slash at the start of a path to a file. -/
def afterSlash? (text : List Char) : Option (List Char) :=
  match text.dropWhile UrlPath.isBreak with
  | c :: rest => if SchemeKind.isSlash .file c then some rest else none
  | [] => none

/-- A path to a file after two slashes. The host is this one if it is not named; then the path
starts with an empty segment, unless a drive stands in the place of the host. -/
def readFileOnHost (text : List Char) : Except UrlFault (Option Authority × UrlPath) :=
  let isSlash := SchemeKind.isSlash .file
  let name := UrlPath.withoutBreaks (text.takeWhile (!isSlash ·))
  if name.isEmpty || UrlPath.isDrive name then .ok (fileOn (.name "") text)
  else
    let path := text.dropWhile (!isSlash ·)
    match Host.resolved name with
    | .error fault => .error (.badHost fault)
    | .ok host => .ok (if host == .name "localhost" then fileOn (.name "") path
      else fileOn host (path.drop 1))

/-- What follows the scheme of a file, with its line breaks and tabs. -/
def readFile (text : List Char) : Except UrlFault (Option Authority × UrlPath) :=
  match afterSlash? text with
  | none => .ok (fileOn (.name "") text)
  | some rest =>
    match afterSlash? rest with
    | none => .ok (fileOn (.name "") rest)
    | some rest => readFileOnHost rest

/-- What follows a scheme, up to the query. -/
def readHierarchy (kind : SchemeKind) (text : List Char) :
    Except UrlFault (Option Authority × UrlPath) :=
  match kind, UrlPath.withoutBreaks text with
  | .network _, text => readAfterSlashes kind (text.dropWhile kind.isSlash)
  | .file, _ => readFile text
  | .other, '/' :: '/' :: rest => readAfterSlashes kind rest
  | .other, '/' :: rest => .ok (none, pathAfter kind ('/' :: rest))
  | .other, text =>
    .ok (none, .rootless (String.ofList (Percent.encode UrlPath.isOutsideAscii text)))

def encoded (isEncoded : Char → Bool) (text : List Char) : String :=
  String.ofList (Percent.encode isEncoded (UrlPath.withoutBreaks text))

def parse (text : String) : Except UrlFault Url :=
  match cut ':' (trim text.toList) with
  | (_, none) => .error .relative
  | (start, some rest) =>
    let start := UrlPath.withoutBreaks start
    if !isScheme start then .error .relative
    else
      let scheme := Text.lowercase (String.ofList start)
      let kind := SchemeKind.ofScheme scheme
      let (rest, fragment) := cut '#' rest
      let (rest, query) := cut '?' rest
      (readHierarchy kind rest).map fun (authority, path) => {
        scheme, authority, path
        query := query.map (encoded kind.encodedInQuery)
        fragment := fragment.map (encoded UrlPath.encodedInFragment) }

end Url

end DocSearch
