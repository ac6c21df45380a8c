import DocSearch.Settings.Scalar

namespace DocSearch

/-! A source may give a path for a key: names joined by dots, each with places of lists in brackets
after it. A value laid over a path goes where the path leads, and what is missing on the way is
made up. -/

inductive PathStep where
  | member (name : String)
  /-- A place of a list; negative ones count from its end. -/
  | place (index : Int)
  deriving DecidableEq, Repr

namespace PathStep

def isNameChar (c : Char) : Bool := c.isAlphanum || c == '_' || c == '-' || c == ' '

def isBlank (c : Char) : Bool := c == ' ' || c == '\t'

/-- A place, its closing bracket included; blanks may surround the index. -/
def place? (text : List Char) : Option PathStep :=
  let inner := text.takeWhile (· != ']')
  let index := Text.trimEnd isBlank (inner.dropWhile isBlank)
  if text.drop inner.length = [']'] ∧ index.head? ≠ some '+' then
    (Scalar.integer? (String.ofList index)).map .place
  else none

/-- A name and the places after it. -/
def ofPiece? (piece : List Char) : Option (List PathStep) :=
  match Text.pieces (· == '[') piece with
  | [] => none
  | name :: places =>
    if !name.isEmpty && name.all isNameChar then
      (places.mapM place?).map (member (String.ofList name) :: ·)
    else none

/-- The steps of a key. A key that is no path is a name as it stands. -/
def ofKey (key : String) : List PathStep :=
  match (Text.pieces (· == '.') key.toList).mapM ofPiece? with
  | some steps => steps.flatten
  | none => [member key]

end PathStep

namespace Entry

def nothing : Entry := scalar none .nothing

/-- The position in a list of `size` elements that an index stands for. -/
def position (size : Nat) (index : Int) : Nat :=
  if 0 ≤ index then index.toNat else size - index.natAbs

/-- The entry as a list with one place written; new places before it hold nothing, and anything
but a list is lost. -/
def writePlace (index : Int) (value : Entry) (target : Entry) : Entry :=
  let size := target.elements.length
  let place := position size index
  let padded := target.elements ++ List.replicate (place + 1 - size) nothing
  match target with
  | list origin _ => list origin (padded.set place value)
  | _ => list none (padded.set place value)

def element? (index : Int) (target : Entry) : Option Entry :=
  target.elements[position target.elements.length index]?

/-- Lays a value over what is reached by the given steps. -/
def setPath (value : Entry) : List PathStep → Entry → Entry
  | [], target => target
  | [.member name], target => set name target value
  | [.place index], target => writePlace index value target
  | .member name :: next :: rest, target =>
    write name (setPath value (next :: rest) ((target.member? name).getD nothing)) target
  | .place index :: next :: rest, target =>
    writePlace index (setPath value (next :: rest) ((target.element? index).getD nothing)) target

/-- Lays a source over a table, one member after the other. Members that lead to the same place
count in this order, which is up to the reader of the source. -/
def overlay (target : Entry) (source : List (String × Entry)) : Entry :=
  source.foldl (fun target member => setPath member.2 (PathStep.ofKey member.1) target) target

end Entry

end DocSearch
