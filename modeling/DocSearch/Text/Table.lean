import DocSearch.Text.Basic
import DocSearch.Text.Numeral

namespace DocSearch.Text.Table

/-! Data on characters is written down as words between blanks. Code points are hexadecimal, two of
them joined by a hyphen make a range, and a word may start with a heading before a colon. -/

def words (table : String) : List (List Char) :=
  let (last, before) := table.toList.foldl
    (fun ((word, words) : List Char × List (List Char)) c =>
      if !c.isWhitespace then (c :: word, words)
      else if word.isEmpty then ([], words)
      else ([], word.reverse :: words))
    ([], [])
  (if last.isEmpty then before else last.reverse :: before).reverse

/-- What stands before a mark and what stands between it and the next one. -/
def halves (mark : Char) (word : List Char) : List Char × List Char :=
  match pieces (· == mark) word with
  | first :: second :: _ => (first, second)
  | _ => (word, word)

def codePoint (word : List Char) : Nat := (Numeral.value? 16 word).getD 0

def character (word : List Char) : Char := Char.ofNat (codePoint word)

def range (word : List Char) : Nat × Nat :=
  let (first, last) := halves '-' word
  (codePoint first, codePoint last)

def ranges (table : String) : List (Nat × Nat) := (words table).map range

/-- The ranges under each heading. -/
def headedRanges (table : String) : List (String × List (Nat × Nat)) :=
  (words table).map fun word =>
    let (heading, rest) := halves ':' word
    (String.ofList heading, (pieces (· == ',') rest).map range)

/-- The heading under which a code point is found. -/
def heading? (table : List (String × List (Nat × Nat))) (n : Nat) : Option String :=
  (table.find? fun entry => inRanges entry.2 n).map (·.1)

end DocSearch.Text.Table
