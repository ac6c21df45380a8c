import DocSearch.Text.Basic
import DocSearch.Text.Numeral

namespace DocSearch

/-! Addresses of version 6 are eight groups of 16 bits. They are written between colons, in
hexadecimal. Two colons stand for one zero group or more, at one place; the last two groups may be
written as four bytes between dots. -/

structure IPv6 where
  groups : List UInt16
  length_eq : groups.length = 8
  deriving DecidableEq, Repr

namespace IPv6

def ofGroups? (groups : List UInt16) : Option IPv6 :=
  if h : groups.length = 8 then some ⟨groups, h⟩ else none

/-- A group has one to four digits. -/
def group? (text : List Char) : Option UInt16 :=
  if 4 < text.length then none else (Numeral.value? 16 text).map UInt16.ofNat

/-- A byte is a decimal number without leading zeros. -/
def byte? (text : List Char) : Option Nat :=
  if 1 < text.length ∧ text.head? = some '0' then none
  else (Numeral.value? 10 text).filter (· < 256)

/-- The two groups that four bytes between dots make. -/
def dottedGroups? (text : List Char) : Option (List UInt16) := do
  match ← (Text.pieces (· == '.') text).mapM byte? with
  | [a, b, c, d] => some [.ofNat (a * 256 + b), .ofNat (c * 256 + d)]
  | _ => none

/-- The groups between colons, the last two maybe written as bytes. -/
def groups? : List (List Char) → Option (List UInt16)
  | [] => some []
  | [last] =>
    match group? last with
    | some group => some [group]
    | none => dottedGroups? last
  | first :: rest => do return (← group? first) :: (← groups? rest)

/-- The parts of a text between colons; an empty text has none. -/
def parts (text : List Char) : List (List Char) :=
  if text.isEmpty then [] else Text.pieces (· == ':') text

/-- What stands before the first two colons in a row, and what follows them. `before` holds the
characters already read, last first. -/
def splitGap? (before : List Char) : List Char → Option (List Char × List Char)
  | ':' :: ':' :: rest => some (before.reverse, rest)
  | c :: rest => splitGap? (c :: before) rest
  | [] => none

def parse? (text : List Char) : Option IPv6 :=
  match splitGap? [] text with
  | none => (groups? (parts text)).bind ofGroups?
  | some (before, after) => do
    let before ← (parts before).mapM group?
    let after ← groups? (parts after)
    let given := before.length + after.length
    if given < 8 then ofGroups? (before ++ List.replicate (8 - given) 0 ++ after) else none

def leadingZeros (groups : List UInt16) : Nat := (groups.takeWhile (· == 0)).length

/-- Place and length of the longest row of zero groups, the first one if there are several. -/
def longestZeros (groups : List UInt16) : Nat × Nat :=
  (List.range groups.length).foldl
    (fun longest place =>
      let zeros := leadingZeros (groups.drop place)
      if longest.2 < zeros then (place, zeros) else longest)
    (0, 0)

def groupsText (groups : List UInt16) : String :=
  ":".intercalate (groups.map fun group => Numeral.hexText group.toNat)

/-- Two colons stand for the longest row of zero groups; a single one is written out. -/
def text (address : IPv6) : String :=
  let (place, zeros) := longestZeros address.groups
  if zeros < 2 then groupsText address.groups
  else
    groupsText (address.groups.take place) ++ "::" ++
      groupsText (address.groups.drop (place + zeros))

end IPv6

end DocSearch
