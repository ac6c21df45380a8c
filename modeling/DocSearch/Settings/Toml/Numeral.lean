import DocSearch.Settings.Scalar

namespace DocSearch.Toml

/-! Numbers of a TOML document. Underscores may stand between digits. Integers have 64 bits with
sign and may be written in hexadecimal, octal or binary; no number but `inf` is infinite, except
below zero. -/

/-- Reads digits with underscores between them, after a first digit. -/
def moreDigits (base : Nat) : List Char → List Char × List Char
  | '_' :: c :: rest =>
    if Numeral.isDigit base c then
      let (digits, rest) := moreDigits base rest
      (c :: digits, rest)
    else ([], '_' :: c :: rest)
  | c :: rest =>
    if Numeral.isDigit base c then
      let (digits, rest) := moreDigits base rest
      (c :: digits, rest)
    else ([], c :: rest)
  | [] => ([], [])

/-- Reads digits, at least one, with underscores between them. -/
def digits? (base : Nat) : List Char → Option (List Char × List Char)
  | c :: rest =>
    if Numeral.isDigit base c then
      let (digits, rest) := moreDigits base rest
      some (c :: digits, rest)
    else none
  | [] => none

def basedInteger? (base : Nat) (text : List Char) : Option (Scalar × List Char) := do
  let (digits, rest) ← digits? base text
  let n ← Numeral.value? base digits
  if n < Nat.pow 2 63 then some (.integer n, rest) else none

/-- Reads the whole part of a decimal number; no digit follows a zero at its start. -/
def wholePart? : List Char → Option (List Char × List Char)
  | '0' :: rest => some (['0'], rest)
  | text => digits? 10 text

/-- Reads a point and the digits after it, if there is a point. -/
def fractionPart? : List Char → Option (List Char × List Char)
  | '.' :: rest => (digits? 10 rest).map fun (digits, rest) => ('.' :: digits, rest)
  | text => some ([], text)

def powerPart? : List Char → Option (List Char × List Char)
  | e :: rest =>
    if e == 'e' || e == 'E' then
      let (negative, unsigned) := Scalar.splitSign rest
      (digits? 10 unsigned).map fun (digits, rest) =>
        (if negative then 'e' :: '-' :: digits else 'e' :: digits, rest)
    else some ([], e :: rest)
  | [] => some ([], [])

def decimal? (negative : Bool) (text : List Char) : Option (Scalar × List Char) := do
  let (whole, rest) ← wholePart? text
  let (fraction, rest) ← fractionPart? rest
  let (power, rest) ← powerPart? rest
  if fraction.isEmpty && power.isEmpty then
    let sign := if negative then ['-'] else []
    let value ← Scalar.integer? (String.ofList (sign ++ whole))
    return (.integer value, rest)
  else
    let value ← Scalar.decimal? negative (whole ++ fraction ++ power)
    if value = .infinity false then none else some (.double value, rest)

def signedNumber? (negative : Bool) : List Char → Option (Scalar × List Char)
  | 'i' :: 'n' :: 'f' :: rest => some (.double (.infinity negative), rest)
  | 'n' :: 'a' :: 'n' :: rest => some (.double .notANumber, rest)
  | text => decimal? negative text

def number? : List Char → Option (Scalar × List Char)
  | '0' :: 'x' :: rest => basedInteger? 16 rest
  | '0' :: 'o' :: rest => basedInteger? 8 rest
  | '0' :: 'b' :: rest => basedInteger? 2 rest
  | text =>
    let (negative, unsigned) := Scalar.splitSign text
    signedNumber? negative unsigned

end DocSearch.Toml
