import DocSearch.Double.Basic

namespace DocSearch

/-! Objects list their members in increasing key order, each key once; `Json.object` brings any
list of members into that form. Integers and doubles are different numbers even where they are
equal as reals. -/

inductive Number where
  /-- An integer that fits 64 bits, with or without sign. -/
  | int (value : Int)
  /-- Any other number; it is finite. -/
  | double (value : Double)
  deriving DecidableEq

inductive Json where
  | null
  | bool (value : Bool)
  | num (number : Number)
  | str (text : String)
  | arr (elements : List Json)
  | obj (members : List (String × Json))

namespace Number

/-- Equality of numbers: integers as integers, doubles by value, never an integer and a double. -/
def same : Number → Number → Bool
  | .int a, .int b => a == b
  | .double a, .double b => a.sameValue b
  | _, _ => false

end Number

namespace Json

instance : Inhabited Json := ⟨.null⟩

mutual
def same : Json → Json → Bool
  | .null, .null => true
  | .bool a, .bool b => a == b
  | .num a, .num b => a.same b
  | .str a, .str b => a == b
  | .arr a, .arr b => sameElements a b
  | .obj a, .obj b => sameMembers a b
  | _, _ => false

def sameElements : List Json → List Json → Bool
  | [], [] => true
  | a :: as, b :: bs => same a b && sameElements as bs
  | _, _ => false

def sameMembers : List (String × Json) → List (String × Json) → Bool
  | [], [] => true
  | (k, a) :: as, (l, b) :: bs => k == l && same a b && sameMembers as bs
  | _, _ => false
end

instance : BEq Json := ⟨same⟩

/-- Puts a member into a sorted list; an earlier member of that key is replaced. -/
def insertMember (key : String) (value : Json) :
    List (String × Json) → List (String × Json)
  | [] => [(key, value)]
  | (k, v) :: rest =>
    if key = k then (key, value) :: rest
    else if key < k then (key, value) :: (k, v) :: rest
    else (k, v) :: insertMember key value rest

/-- The object of the given members; of two members with one key the later one counts. -/
def object (members : List (String × Json)) : Json :=
  .obj (members.foldl (fun sorted member => insertMember member.1 member.2 sorted) [])

def ofNat (n : Nat) : Json := .num (.int n)

/-- A finite double as a number; the others have no JSON text and become `null`. -/
def ofDouble (d : Double) : Json := if d.isFinite then .num (.double d) else .null

def ofStrings (texts : List String) : Json := .arr (texts.map .str)

/-- The member of an object; other values have no members. -/
def get? (key : String) : Json → Option Json
  | .obj members => members.lookup key
  | _ => none

def array? : Json → Option (List Json)
  | .arr elements => some elements
  | _ => none

def string? : Json → Option String
  | .str text => some text
  | _ => none

/-- A non-negative integer; a double is none even when it has no fraction. -/
def nat? : Json → Option Nat
  | .num (.int i) => if 0 ≤ i then some i.toNat else none
  | _ => none

/-- Any number, rounded to a double where it is an integer. -/
def double? : Json → Option Double
  | .num (.int i) => some (.ofInt i)
  | .num (.double d) => some d
  | _ => none

end Json

end DocSearch
