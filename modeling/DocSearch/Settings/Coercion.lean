import DocSearch.Settings.LoadError
import DocSearch.Settings.Scalar

namespace DocSearch

/-! An entry is read as the type that is wanted. It may be of another type if it can be turned
into the wanted one without a choice. -/

namespace Entry

def wrongType (entry : Entry) (expected key : String) : LoadError :=
  .wrongType entry.describe expected key entry.origin?

/-- A text; truth values and numbers are written out. -/
def text (key : String) (entry : Entry) : Except LoadError String :=
  match entry with
  | scalar _ (.text text) => .ok text
  | scalar _ (.boolean value) => .ok (toString value)
  | scalar _ (.integer value) => .ok (toString value)
  | scalar _ (.double value) => .ok value.display
  | entry => .error (entry.wrongType "a string" key)

def optionalText (key : String) (entry : Entry) : Except LoadError (Option String) :=
  match entry with
  | scalar _ .nothing => .ok none
  | entry => (entry.text key).map some

/-- A text that says yes or no, as a number. -/
def answer? (text : String) : Option Nat :=
  let word := Text.lowercase text
  if word = "true" ∨ word = "on" ∨ word = "yes" then some 1
  else if word = "false" ∨ word = "off" ∨ word = "no" then some 0
  else none

/-- A natural number below `2 ^ 64`; a floating point number is rounded and brought into the
range. -/
def nat (key : String) (entry : Entry) : Except LoadError Nat :=
  match entry with
  | scalar _ (.integer value) =>
    if 0 ≤ value then .ok value.toNat
    else .error (entry.wrongType "an unsigned 64 bit or less integer" key)
  | scalar _ (.boolean value) => .ok value.toNat
  | scalar _ (.double value) => .ok value.toNatClamped
  | scalar _ (.text text) =>
    match answer? text, Scalar.word? text with
    | some n, _ => .ok n
    | none, some n => .ok n
    | none, none => .error (entry.wrongType "an integer" key)
  | entry => .error (entry.wrongType "an integer" key)

def texts (key : String) (index : Nat) : List Entry → Except LoadError (List String)
  | [] => .ok []
  | entry :: rest => do
    let first ← entry.text (key ++ "[" ++ toString index ++ "]")
    return first :: (← texts key (index + 1) rest)

/-- The kind of an entry where a list is wanted. -/
def describeScalar : Entry → String
  | scalar _ (.integer value) => "integer `" ++ toString value ++ "`"
  | scalar _ (.double value) =>
    let shown := value.display
    let point := if value.isFinite && !shown.toList.contains '.' then ".0" else ""
    "floating point `" ++ shown ++ point ++ "`"
  | entry => entry.describe

def textList (key : String) (entry : Entry) : Except LoadError (List String) :=
  match entry with
  | list _ elements => texts key 0 elements
  | entry => .error (.notList entry.describeScalar)

end Entry

end DocSearch
