import DocSearch.Settings.Toml.Moment
import DocSearch.Settings.Toml.Numeral
import DocSearch.Settings.Toml.Text
import DocSearch.Settings.Toml.Tree

namespace DocSearch.Toml

/-! A TOML document is read line by line: headers choose a table, and lines with an equals sign add
to the table chosen last. A value is a scalar, an array, or a table within one line. -/

/-- Arrays and tables are nested less deep than this, and keys have fewer names. -/
def depthLimit : Nat := 80

/-- Reads a value that is neither an array nor a table. -/
def scalar? (text : List Char) : Option (Scalar × List Char) :=
  match text with
  | 't' :: 'r' :: 'u' :: 'e' :: rest => some (.boolean true, rest)
  | 'f' :: 'a' :: 'l' :: 's' :: 'e' :: rest => some (.boolean false, rest)
  | text =>
    match string? text, moment? text with
    | some (value, rest), _ => some (.text value, rest)
    | none, some (value, rest) => some (.text value, rest)
    | none, none => number? text

/-- Reads the elements of an array up to its closing bracket, at most `fuel` of them. -/
def elements? (element? : List Char → Option (Entry × List Char)) :
    Nat → List Char → Option (List Entry × List Char)
  | 0, _ => none
  | fuel + 1, text =>
    match skipLines text.length text with
    | ']' :: rest => some ([], rest)
    | text => do
      let (first, rest) ← element? text
      match skipLines rest.length rest with
      | ',' :: rest =>
        let (others, rest) ← elements? element? fuel rest
        return (first :: others, rest)
      | ']' :: rest => return ([first], rest)
      | _ => none

def pair? (value? : List Char → Option (Entry × List Char)) (text : List Char) :
    Option (List String × Entry × List Char) := do
  let (names, rest) ← key? (depthLimit - 1) text
  let (entry, rest) ← value? (skipBlanks (← after? '=' rest))
  return (names, entry, rest)

/-- Reads the members of a table within a line up to its closing brace, at most `fuel` of them. -/
def inlineMembers? (value? : List Char → Option (Entry × List Char)) :
    Nat → Members → List Char → Option (Members × List Char)
  | 0, _, _ => none
  | fuel + 1, members, text => do
    let (names, entry, rest) ← pair? value? text
    let members ← members.add? entry names
    match skipBlanks rest with
    | ',' :: rest => inlineMembers? value? fuel members rest
    | '\x7d' :: rest => return (members, rest)
    | _ => none

/-- Reads a value in which arrays and tables are nested at most `depth` deep. -/
def value? (origin : String) (depth : Nat) (text : List Char) : Option (Entry × List Char) :=
  match depth, text with
  | depth + 1, '[' :: rest =>
    (elements? (value? origin depth) text.length rest).map fun (entries, rest) =>
      (.list (some origin) entries, rest)
  | depth + 1, '\x7b' :: rest =>
    match skipBlanks rest with
    | '\x7d' :: rest => some (.table (some origin) [], rest)
    | rest =>
      (inlineMembers? (value? origin depth) text.length [] rest).map fun (members, rest) =>
        (.table (some origin) (Members.entries origin members), rest)
  | _, text => (scalar? text).map fun (scalar, rest) => (.scalar (some origin) scalar, rest)

/-- A document in part: the tree, and the table that lines are added to. -/
structure Draft where
  members : Members := []
  place : List String := []

def line? (origin : String) (draft : Draft) (text : List Char) : Option (Draft × List Char) :=
  match text with
  | '[' :: '[' :: rest => do
    let (names, rest) ← key? (depthLimit - 1) rest
    let rest ← after? ']' (← after? ']' rest)
    return ({ members := ← draft.members.openElement? names, place := names }, rest)
  | '[' :: rest => do
    let (names, rest) ← key? (depthLimit - 1) rest
    let rest ← after? ']' rest
    return ({ members := ← draft.members.openTable? names, place := names }, rest)
  | text => do
    let (names, entry, rest) ← pair? (value? origin (depthLimit - 1)) text
    return ({ draft with members := ← draft.members.change? (·.add? entry names) draft.place },
      rest)

/-- Reads lines, at most `fuel` of them. -/
def lines? (origin : String) : Nat → Draft → List Char → Option Members
  | 0, _, _ => none
  | fuel + 1, draft, text =>
    match skipComment (skipLines text.length text) with
    | [] => some draft.members
    | text => do
      let (draft, rest) ← line? origin draft text
      lines? origin fuel draft (← lineEnd? rest)

/-- The text without the mark that some editors put before it. -/
def unmarked : List Char → List Char
  | '\ufeff' :: rest => rest
  | text => text

/-- The members of a TOML text, or nothing if it cannot be read. -/
def parse (origin text : String) : Option (List (String × Entry)) :=
  (lines? origin (text.length + 1) {} (unmarked text.toList)).map (Members.entries origin)

end DocSearch.Toml
