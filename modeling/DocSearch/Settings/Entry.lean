import DocSearch.Double.Text
import DocSearch.Json.Basic
import DocSearch.Text.Basic
import DocSearch.Text.Quoted

namespace DocSearch

/-! An entry is a value that a source of settings gives for a key, together with the source it
came from. Sources are laid over each other: a later entry replaces an earlier one, except that
tables are merged. Keys are compared in lower case. -/

inductive Scalar where
  | nothing
  | boolean (value : Bool)
  /-- An integer of 64 bits with sign. -/
  | integer (value : Int)
  | double (value : Double)
  | text (value : String)
  deriving DecidableEq

inductive Entry where
  | scalar (origin : Option String) (value : Scalar)
  | list (origin : Option String) (elements : List Entry)
  | table (origin : Option String) (members : List (String × Entry))

namespace Entry

mutual
def decEq : (entry other : Entry) → Decidable (entry = other)
  | scalar origin value, scalar origin' value' =>
    decidable_of_decidable_of_iff (p := origin = origin' ∧ value = value') (by simp)
  | list origin elements, list origin' elements' =>
    have := decElements elements elements'
    decidable_of_decidable_of_iff (p := origin = origin' ∧ elements = elements') (by simp)
  | table origin members, table origin' members' =>
    have := decMembers members members'
    decidable_of_decidable_of_iff (p := origin = origin' ∧ members = members') (by simp)
  | scalar _ _, list _ _ | scalar _ _, table _ _ | list _ _, scalar _ _ | list _ _, table _ _
  | table _ _, scalar _ _ | table _ _, list _ _ => .isFalse nofun

def decElements : (elements others : List Entry) → Decidable (elements = others)
  | [], [] => .isTrue rfl
  | entry :: rest, entry' :: rest' =>
    have := decEq entry entry'
    have := decElements rest rest'
    decidable_of_decidable_of_iff (p := entry = entry' ∧ rest = rest') (by simp)
  | [], _ :: _ | _ :: _, [] => .isFalse nofun

def decMembers : (members others : List (String × Entry)) → Decidable (members = others)
  | [], [] => .isTrue rfl
  | (key, value) :: rest, (key', value') :: rest' =>
    have := decEq value value'
    have := decMembers rest rest'
    decidable_of_decidable_of_iff (p := key = key' ∧ value = value' ∧ rest = rest')
      (by simp [and_assoc])
  | [], _ :: _ | _ :: _, [] => .isFalse nofun
end

instance : DecidableEq Entry := decEq

/-- What a table holds; other entries count as empty tables. -/
def members : Entry → List (String × Entry)
  | table _ members => members
  | _ => []

/-- What a list holds; other entries count as empty lists. -/
def elements : Entry → List Entry
  | list _ elements => elements
  | _ => []

def emptyTable : Entry := table none []

/-- The entry as a table with one member written; anything but a table is lost. -/
def write (key : String) (value : Entry) : Entry → Entry
  | table origin members => table origin (put members)
  | _ => table none (put [])
where
  put : List (String × Entry) → List (String × Entry)
    | [] => [(Text.lowercase key, value)]
    | (k, v) :: rest =>
      if k = Text.lowercase key then (k, value) :: rest else (k, v) :: put rest

/-- The member that a table has under a key. -/
def member? (key : String) (entry : Entry) : Option Entry :=
  entry.members.lookup (Text.lowercase key)

mutual
/-- Lays a value over what a table holds under a key. A table is merged into what is there,
anything else replaces it. -/
def set (key : String) (target : Entry) : Entry → Entry
  | table _ incoming => write key (setAll ((target.member? key).getD emptyTable) incoming) target
  | scalar origin value => write key (scalar origin value) target
  | list origin elements => write key (list origin elements) target

def setAll (target : Entry) : List (String × Entry) → Entry
  | [] => target
  | (key, value) :: rest => setAll (set key target value) rest
end

mutual
/-- A JSON value as an entry. Integers beyond 64 bits with sign become doubles. -/
def ofJson (origin : String) : Json → Entry
  | .null => scalar (some origin) .nothing
  | .bool value => scalar (some origin) (.boolean value)
  | .num (.int value) =>
    scalar (some origin)
      (if value < Int.pow 2 63 then .integer value else .double (.ofInt value))
  | .num (.double value) => scalar (some origin) (.double value)
  | .str text => scalar (some origin) (.text text)
  | .arr elements => list (some origin) (ofElements origin elements)
  | .obj members => table (some origin) (ofMembers origin members)

def ofElements (origin : String) : List Json → List Entry
  | [] => []
  | value :: rest => ofJson origin value :: ofElements origin rest

def ofMembers (origin : String) : List (String × Json) → List (String × Entry)
  | [] => []
  | (key, value) :: rest => (key, ofJson origin value) :: ofMembers origin rest
end

def origin? : Entry → Option String
  | scalar origin _ => origin
  | list origin _ => origin
  | table origin _ => origin

/-- The kind of an entry, with its value where it is short. -/
def describe : Entry → String
  | scalar _ .nothing => "unit value"
  | scalar _ (.boolean value) => "boolean `" ++ toString value ++ "`"
  | scalar _ (.integer value) => "64-bit integer `" ++ toString value ++ "`"
  | scalar _ (.double value) => "floating point `" ++ value.display ++ "`"
  | scalar _ (.text text) => "string " ++ Text.quote text
  | list _ _ => "sequence"
  | table _ _ => "map"

end Entry

end DocSearch
