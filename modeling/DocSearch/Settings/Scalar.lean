import DocSearch.Settings.Entry

namespace DocSearch.Scalar

/-! A text from the environment is read as a truth value, an integer or a floating point number
where it is written as one, and stays a text otherwise. -/

def digitsValue (digits : List Char) : Nat :=
  digits.foldl (fun n c => n * 10 + (c.toNat - '0'.toNat)) 0

def unsigned? (text : List Char) : Option Nat :=
  if !text.isEmpty && text.all Char.isDigit then some (digitsValue text) else none

def splitSign : List Char → Bool × List Char
  | '-' :: rest => (true, rest)
  | '+' :: rest => (false, rest)
  | digits => (false, digits)

/-- An integer of 64 bits with sign. -/
def integer? (text : String) : Option Int :=
  let (negative, rest) := splitSign text.toList
  match unsigned? rest with
  | none => none
  | some n =>
    let value : Int := if negative then -(n : Int) else n
    if -Int.pow 2 63 ≤ value ∧ value < Int.pow 2 63 then some value else none

/-- An integer of 64 bits without sign; a plus may stand before it. -/
def word? (text : String) : Option Nat :=
  let digits :=
    match text.toList with
    | '+' :: rest => rest
    | digits => digits
  (unsigned? digits).filter (· < Nat.pow 2 64)

def power? (text : List Char) : Option Int :=
  let (negative, digits) := splitSign text
  (unsigned? digits).map fun n => if negative then -(n : Int) else n

/-- A decimal numeral without sign: digits, on either side of a point, and a power of ten. -/
def decimal? (negative : Bool) (text : List Char) : Option Double :=
  let whole := text.takeWhile Char.isDigit
  let rest := text.dropWhile Char.isDigit
  let (fraction, rest) :=
    match rest with
    | '.' :: rest => (rest.takeWhile Char.isDigit, rest.dropWhile Char.isDigit)
    | _ => ([], rest)
  let power :=
    match rest with
    | [] => some 0
    | e :: rest => if e == 'e' || e == 'E' then power? rest else none
  if whole.isEmpty && fraction.isEmpty then none
  else
    power.map fun power =>
      .ofDecimal negative (digitsValue (whole ++ fraction)) (power - fraction.length)

def double? (text : String) : Option Double :=
  let (negative, rest) := splitSign text.toList
  let name := Text.lowercase (String.ofList rest)
  if name = "inf" ∨ name = "infinity" then some (.infinity negative)
  else if name = "nan" then some .notANumber
  else decimal? negative rest

def boolean? (text : String) : Option Bool :=
  let name := Text.lowercase text
  if name = "true" then some true else if name = "false" then some false else none

/-- The first of a truth value, an integer and a floating point number that a text writes. -/
def ofText? (text : String) : Option Scalar :=
  match boolean? text, integer? text, double? text with
  | some value, _, _ => some (.boolean value)
  | none, some value, _ => some (.integer value)
  | none, none, some value => some (.double value)
  | none, none, none => none

end DocSearch.Scalar
