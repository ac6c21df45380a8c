import DocSearch.Domain.Name
import DocSearch.Host.IPv4
import DocSearch.Host.IPv6
import DocSearch.Text.Percent

namespace DocSearch

/-! A host is a name or an address. Where names are looked up, they have the form of domain names,
and a name that ends in a number has to be an address; elsewhere a name is any text. -/

inductive Host where
  | name (text : String)
  | ipv4 (address : IPv4)
  | ipv6 (address : IPv6)
  deriving DecidableEq, Repr

inductive HostFault where
  | empty
  | invalidName
  | invalidIPv4
  | invalidIPv6
  | invalidCharacter
  deriving DecidableEq, Repr

def HostFault.message : HostFault → String
  | empty => "empty host"
  | invalidName => "invalid international domain name"
  | invalidIPv4 => "invalid IPv4 address"
  | invalidIPv6 => "invalid IPv6 address"
  | invalidCharacter => "invalid domain character"

namespace Host

/-- An address of version 6 between brackets. -/
def bracketed (text : List Char) : Except HostFault Host :=
  if text.getLast? ≠ some ']' then .error .invalidIPv6
  else
    match IPv6.parse? text.tail.dropLast with
    | some address => .ok (.ipv6 address)
    | none => .error .invalidIPv6

/-- A host that is looked up. -/
def resolved (text : List Char) : Except HostFault Host :=
  if text.head? = some '[' then bracketed text
  else
    match (Percent.decode? text).bind fun decoded => Domain.ascii? decoded.toList with
    | none => .error .invalidName
    | some domain =>
      if domain.isEmpty then .error .empty
      else if !IPv4.isMeant domain then .ok (.name (String.ofList domain))
      else
        match IPv4.parse? domain with
        | some address => .ok (.ipv4 address)
        | none => .error .invalidIPv4

def isForbidden (c : Char) : Bool :=
  ['\x00', '\t', '\n', '\r', ' ', '#', '/', ':', '<', '>', '?', '@', '[', '\\', ']', '^',
    '|'].contains c

/-- A host that is not looked up; it may be empty. -/
def plain (text : List Char) : Except HostFault Host :=
  if text.head? = some '[' then bracketed text
  else if text.any isForbidden then .error .invalidCharacter
  else
    .ok (.name (String.ofList (Percent.encode (fun c => c.toNat < 32 || 126 < c.toNat) text)))

def text : Host → String
  | name text => text
  | ipv4 address => address.text
  | ipv6 address => "[" ++ address.text ++ "]"

def isEmpty (host : Host) : Bool := host == name ""

end Host

end DocSearch
