import DocSearch.Json.Printer
import DocSearch.Text.Quoted

namespace DocSearch

/-! A schema lists the members of a record with their types. A record is read from an object or,
by position, from an array; of several faults the one met first is reported. -/

inductive MemberType where
  | text
  | unsigned (bits : Nat)
  | signed (bits : Nat)
  | double
  | boolean
  | textList
  | optionalText
  deriving DecidableEq, Repr

namespace MemberType

@[reducible] def Value : MemberType → Type
  | text => String
  | unsigned _ => Nat
  | signed _ => Int
  | double => Double
  | boolean => Bool
  | textList => List String
  | optionalText => Option String

def expected : MemberType → String
  | text => "a string"
  | unsigned bits => "u" ++ toString bits
  | signed bits => "i" ++ toString bits
  | double => "f64"
  | boolean => "a boolean"
  | textList => "a sequence"
  | optionalText => "a string"

end MemberType

inductive Mismatch where
  | wrongType (found : Json) (expected : String)
  | outOfRange (found : Int) (expected : String)
  | missingMember (name : String)
  | tooShort (length : Nat) (record : String) (members : Nat)
  | tooLong (length : Nat)

/-- The kind of a value, with the value itself where it is short. -/
def Json.describe : Json → String
  | .null => "null"
  | .bool value => "boolean `" ++ toString value ++ "`"
  | .num (.int value) => "integer `" ++ toString value ++ "`"
  | .num (.double value) => "floating point `" ++ value.render ++ "`"
  | .str text => "string " ++ Text.quote text
  | .arr _ => "sequence"
  | .obj _ => "map"

namespace Mismatch

def message : Mismatch → String
  | wrongType found expected => "invalid type: " ++ found.describe ++ ", expected " ++ expected
  | outOfRange found expected =>
    "invalid value: integer `" ++ toString found ++ "`, expected " ++ expected
  | missingMember name => "missing field `" ++ name ++ "`"
  | tooShort length record members =>
    "invalid length " ++ toString length ++ ", expected struct " ++ record ++ " with " ++
      toString members ++ " elements"
  | tooLong length => "invalid length " ++ toString length ++ ", expected fewer elements in array"

end Mismatch

def readText : Json → Except Mismatch String
  | .str text => .ok text
  | found => .error (.wrongType found "a string")

def readTexts : List Json → Except Mismatch (List String)
  | [] => .ok []
  | value :: rest =>
    match readText value with
    | .error mismatch => .error mismatch
    | .ok text => (readTexts rest).map (text :: ·)

/-- Reads an integer of an interval. -/
def readInteger (low high : Int) (expected : String) : Json → Except Mismatch Int
  | .num (.int value) =>
    if low ≤ value ∧ value ≤ high then .ok value else .error (.outOfRange value expected)
  | found => .error (.wrongType found expected)

namespace MemberType

def read (type : MemberType) (json : Json) : Except Mismatch type.Value :=
  match type with
  | text => readText json
  | unsigned bits =>
    (readInteger 0 (Int.pow 2 bits - 1) (unsigned bits).expected json).map Int.toNat
  | signed bits =>
    readInteger (-Int.pow 2 (bits - 1)) (Int.pow 2 (bits - 1) - 1) (signed bits).expected json
  | double =>
    match json.double? with
    | some value => .ok value
    | none => .error (.wrongType json double.expected)
  | boolean =>
    match json with
    | .bool value => .ok value
    | found => .error (.wrongType found boolean.expected)
  | textList =>
    match json with
    | .arr elements => readTexts elements
    | found => .error (.wrongType found textList.expected)
  | optionalText =>
    match json with
    | .null => .ok none
    | found => (readText found).map some

def toJson (type : MemberType) (value : type.Value) : Json :=
  match type, value with
  | text, value => .str value
  | unsigned _, value => .num (.int (Int.ofNat value))
  | signed _, value => .num (.int value)
  | double, value => .ofDouble value
  | boolean, value => .bool value
  | textList, value => .ofStrings value
  | optionalText, some value => .str value
  | optionalText, none => .null

end MemberType

inductive Presence (α : Type) where
  | required
  /-- The member may be missing from an object. -/
  | optional (value : α)
  /-- The member may be missing from an object and from the end of an array. -/
  | defaulted (value : α)

structure Member where
  name : String
  type : MemberType
  presence : Presence type.Value := .required

structure Schema where
  name : String
  members : List Member

namespace Schema

@[reducible] def Values : List Member → Type
  | [] => Unit
  | member :: rest => member.type.Value × Values rest

/-- Checks the members of an object in its own order; unknown ones are skipped. -/
def checkMembers (members : List Member) : List (String × Json) → Except Mismatch Unit
  | [] => .ok ()
  | (name, value) :: rest =>
    match members.find? (·.name == name) with
    | none => checkMembers members rest
    | some member =>
      match member.type.read value with
      | .error mismatch => .error mismatch
      | .ok _ => checkMembers members rest

def ofMembers (object : List (String × Json)) :
    (members : List Member) → Except Mismatch (Values members)
  | [] => .ok ()
  | member :: rest => do
    let value ←
      match object.lookup member.name, member.presence with
      | some value, _ => member.type.read value
      | none, .required => .error (.missingMember member.name)
      | none, .optional value => .ok value
      | none, .defaulted value => .ok value
    return (value, ← ofMembers object rest)

/-- Reads values by position, the next position being `index`. -/
def ofElements (schema : Schema) (index : Nat) :
    (members : List Member) → List Json → Except Mismatch (Values members)
  | [], [] => .ok ()
  | [], extra => .error (.tooLong (index + extra.length))
  | member :: rest, value :: elements => do
    return (← member.type.read value, ← ofElements schema (index + 1) rest elements)
  | member :: rest, [] =>
    match member.presence with
    | .defaulted value => do return (value, ← ofElements schema (index + 1) rest [])
    | _ => .error (.tooShort index schema.name schema.members.length)

def read (schema : Schema) : Json → Except Mismatch (Values schema.members)
  | .obj object => do
    checkMembers schema.members object
    ofMembers object schema.members
  | .arr elements => schema.ofElements 0 schema.members elements
  | found => .error (.wrongType found ("struct " ++ schema.name))

def toMembers : (members : List Member) → Values members → List (String × Json)
  | [], _ => []
  | member :: rest, values => (member.name, member.type.toJson values.1) :: toMembers rest values.2

def toJson (schema : Schema) (values : Values schema.members) : Json :=
  .object (toMembers schema.members values)

end Schema

end DocSearch
