import DocSearch.Calendar.Text
import DocSearch.Text.Basic
import DocSearch.Text.Numeral

namespace DocSearch.Toml

/-! Dates and times of a TOML document are kept as texts in one form: a `T` between date and time,
no zeros at the end of a fraction, which has at most nine digits, and `Z` or hours and minutes for
the offset. -/

/-- Reads a number of exactly so many digits. -/
def fixed? (count : Nat) (text : List Char) : Option (Nat × List Char) :=
  if count ≤ text.length then
    if (text.take count).all Char.isDigit then
      (Numeral.value? 10 (text.take count)).map fun n => (n, text.drop count)
    else none
  else none

def after? (mark : Char) : List Char → Option (List Char)
  | c :: rest => if c = mark then some rest else none
  | [] => none

def date? (text : List Char) : Option (String × List Char) := do
  let (year, rest) ← fixed? 4 text
  let (month, rest) ← fixed? 2 (← after? '-' rest)
  let (day, rest) ← fixed? 2 (← after? '-' rest)
  let date ← Date.of? year month day
  return (date.text, rest)

def fraction (text : List Char) : String × List Char :=
  match text with
  | '.' :: rest =>
    let digits := rest.takeWhile Char.isDigit
    let kept := Text.trimEnd (· == '0') (digits.take 9)
    if digits.isEmpty then ("", text)
    else (if kept.isEmpty then "" else "." ++ String.ofList kept, rest.dropWhile Char.isDigit)
  | text => ("", text)

/-- A time of day; its second may be a leap second. -/
def time? (text : List Char) : Option (String × List Char) := do
  let (hour, rest) ← fixed? 2 text
  let (minute, rest) ← fixed? 2 (← after? ':' rest)
  let (second, rest) ← fixed? 2 (← after? ':' rest)
  if 23 < hour ∨ 59 < minute ∨ 60 < second then none
  else
    let (fraction, rest) := fraction rest
    return (padded 2 hour ++ ":" ++ padded 2 minute ++ ":" ++ padded 2 second ++ fraction, rest)

def offset? : List Char → Option (String × List Char)
  | 'Z' :: rest => some ("Z", rest)
  | 'z' :: rest => some ("Z", rest)
  | sign :: rest =>
    if sign == '+' || sign == '-' then do
      let (hour, rest) ← fixed? 2 rest
      let (minute, rest) ← fixed? 2 (← after? ':' rest)
      if 23 < hour ∨ 59 < minute then none
      else
        let isWest := sign = '-' ∧ 0 < hour + minute
        return ((if isWest then "-" else "+") ++ padded 2 hour ++ ":" ++ padded 2 minute, rest)
    else some ("", sign :: rest)
  | [] => some ("", [])

def isTimeMark (c : Char) : Bool := c == 'T' || c == 't' || c == ' '

/-- The time after a date, if there is one, with its offset. -/
def timeAfter? : List Char → Option (String × List Char)
  | mark :: rest =>
    if !isTimeMark mark then none
    else do
      let (time, rest) ← time? rest
      let (offset, rest) ← offset? rest
      return ("T" ++ time ++ offset, rest)
  | [] => none

/-- Reads a date, a date with a time, or a time. -/
def moment? (text : List Char) : Option (String × List Char) :=
  match date? text with
  | some (date, rest) =>
    match timeAfter? rest with
    | some (time, rest) => some (date ++ time, rest)
    | none => some (date, rest)
  | none => time? text

end DocSearch.Toml
