import DocSearch.Settings.Entry

namespace DocSearch.Toml

/-! A document is a tree of tables. A table comes into being by a header, as a place on the way to
another table, or by a dotted key. What a header or a value has made cannot be made again. -/

inductive TableKind where
  | headed
  /-- Made on the way to a table below it. -/
  | implied
  | dotted
  deriving DecidableEq, Repr

inductive Node where
  | value (entry : Entry)
  | table (kind : TableKind) (members : List (String × Node))
  /-- Tables of one name. The last one may still grow. -/
  | tables (earlier : List (List (String × Node))) (last : List (String × Node))

abbrev Members := List (String × Node)

namespace Members

/-- The members with one replaced, or added at the end. -/
def put (name : String) (node : Node) : Members → Members
  | [] => [(name, node)]
  | (other, old) :: rest =>
    if other = name then (name, node) :: rest else (other, old) :: put name node rest

/-- The last name of a dotted key may lead into a table of dotted keys only. -/
def mayAdd (kind : TableKind) (names : List String) : Bool :=
  match kind with
  | .headed => false
  | .implied => 1 < names.length
  | .dotted => true

def add? (entry : Entry) : List String → Members → Option Members
  | [], _ => none
  | [name], members =>
    match members.lookup name with
    | some _ => none
    | none => some (members.put name (.value entry))
  | name :: next :: rest, members => do
    let node ←
      match members.lookup name with
      | none => (add? entry (next :: rest) []).map (.table .dotted)
      | some (.table kind inner) =>
        if mayAdd kind (next :: rest) then (add? entry (next :: rest) inner).map (.table kind)
        else none
      | some (.tables earlier last) =>
        if rest.isEmpty then none
        else (add? entry (next :: rest) last).map (.tables earlier)
      | some (.value _) => none
    return members.put name node

def openTable? : List String → Members → Option Members
  | [], _ => none
  | [name], members =>
    match members.lookup name with
    | none => some (members.put name (.table .headed []))
    | some (.table .implied inner) => some (members.put name (.table .headed inner))
    | some _ => none
  | name :: next :: rest, members => do
    let node ←
      match members.lookup name with
      | none => (openTable? (next :: rest) []).map (.table .implied)
      | some (.table kind inner) => (openTable? (next :: rest) inner).map (.table kind)
      | some (.tables earlier last) => (openTable? (next :: rest) last).map (.tables earlier)
      | some (.value _) => none
    return members.put name node

/-- Makes one more of the tables that a header in double brackets names. -/
def openElement? : List String → Members → Option Members
  | [], _ => none
  | [name], members =>
    match members.lookup name with
    | none => some (members.put name (.tables [] []))
    | some (.tables earlier last) => some (members.put name (.tables (earlier ++ [last]) []))
    | some _ => none
  | name :: next :: rest, members => do
    let node ←
      match members.lookup name with
      | none => (openElement? (next :: rest) []).map (.table .implied)
      | some (.table kind inner) => (openElement? (next :: rest) inner).map (.table kind)
      | some (.tables earlier last) => (openElement? (next :: rest) last).map (.tables earlier)
      | some (.value _) => none
    return members.put name node

def change? (f : Members → Option Members) : List String → Members → Option Members
  | [], members => f members
  | name :: rest, members => do
    let node ←
      match members.lookup name with
      | some (.table kind inner) => (change? f rest inner).map (.table kind)
      | some (.tables earlier last) => (change? f rest last).map (.tables earlier)
      | _ => none
    return members.put name node

end Members

mutual
/-- A node as an entry from a source. -/
def Node.entry (origin : String) : Node → Entry
  | .value entry => entry
  | .table _ members => .table (some origin) (Members.entries origin members)
  | .tables earlier last =>
    .list (some origin)
      (Members.tables origin earlier ++ [.table (some origin) (Members.entries origin last)])

def Members.entries (origin : String) : List (String × Node) → List (String × Entry)
  | [] => []
  | (name, node) :: rest => (name, node.entry origin) :: Members.entries origin rest

def Members.tables (origin : String) : List (List (String × Node)) → List Entry
  | [] => []
  | members :: rest =>
    .table (some origin) (Members.entries origin members) :: Members.tables origin rest
end

end DocSearch.Toml
