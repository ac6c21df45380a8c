import DocSearch.Json.Basic
import DocSearch.Json.Fault

namespace DocSearch.Json

/-! An integer that fits 64 bits is exact. Any other numeral is a double: its leading digits, as
many as fit 64 bits, are rounded first and scaled by a power of ten afterwards, so the result can
differ from the nearest double in the last place. -/

/-- A value read from a text, with the number of bytes read and the characters left. -/
structure Scanned (α : Type) where
  value : α
  offset : Nat
  rest : List Char

def wordLimit : Nat := Nat.pow 2 64

def digitValue (c : Char) : Nat := c.toNat - '0'.toNat

/-- Digits gathered into a word: the value, how many digits it holds, and whether a digit had to
be left out because the word was full. -/
structure Gathered where
  value : Nat
  held : Nat
  full : Bool

/-- Appends digits to a word until one does not fit; that one and all later digits are dropped. -/
def gather (start : Nat) (digits : List Char) : Gathered :=
  digits.foldl
    (fun g c =>
      let next := g.value * 10 + digitValue c
      if g.full || wordLimit ≤ next then { g with full := true }
      else { g with value := next, held := g.held + 1 })
    ⟨start, 0, false⟩

def powerOfTen (power : Nat) : Double := .ofDecimal false 1 power

/-- The double for `digits * 10 ^ exponent`; `none` when it is too large. -/
def scaled (negative : Bool) (digits : Nat) (exponent : Int) : Option Double :=
  let base := Double.ofRatio negative digits 1
  if digits = 0 then some base
  else if 308 < exponent then none
  else if 0 ≤ exponent then
    let product := base.mul (powerOfTen exponent.toNat)
    if product.isFinite then some product else none
  else if -308 ≤ exponent then some (base.div (powerOfTen (-exponent).toNat))
  else if -616 ≤ exponent then
    some ((base.div (powerOfTen 308)).div (powerOfTen (-exponent - 308).toNat))
  else some (Double.ofMagnitude negative 0)

/-- The value of exponent digits, or the number of digits after which it passes 32 bits. -/
def exponentValue (value count : Nat) : List Char → Except Nat Nat
  | [] => .ok value
  | c :: rest =>
    let next := value * 10 + digitValue c
    if Nat.pow 2 31 ≤ next then .error (count + 1) else exponentValue next (count + 1) rest

/-- Reads the part after `e`, scaling `digits * 10 ^ exponent` by it. -/
def scanExponent (negative : Bool) (digits : Nat) (exponent : Int) (offset : Nat)
    (text : List Char) : Except Mishap (Scanned Number) :=
  let signed := text.head? == some '+' || text.head? == some '-'
  let down := text.head? == some '-'
  let offset := if signed then offset + 1 else offset
  let text := if signed then text.tail else text
  let power := text.takeWhile Char.isDigit
  let rest := text.dropWhile Char.isDigit
  let done (d : Double) : Scanned Number := ⟨.double d, offset + power.length, rest⟩
  match power with
  | [] => .error (if text.isEmpty then ⟨.endInValue, offset⟩ else ⟨.invalidNumber, offset + 1⟩)
  | _ :: _ =>
    match exponentValue 0 0 power with
    | .error count =>
      if digits ≠ 0 ∧ !down then .error ⟨.numberOutOfRange, offset + count⟩
      else .ok (done (.ofMagnitude negative 0))
    | .ok value =>
      match scaled negative digits (if down then exponent - value else exponent + value) with
      | some d => .ok (done d)
      | none => .error ⟨.numberOutOfRange, offset + power.length⟩

/-- Reads what may follow the integer digits of a double. -/
def scanScaled (negative : Bool) (digits : Nat) (exponent : Int) (offset : Nat)
    (text : List Char) : Except Mishap (Scanned Number) :=
  if text.head? == some 'e' || text.head? == some 'E' then
    scanExponent negative digits exponent (offset + 1) text.tail
  else
    match scaled negative digits exponent with
    | some d => .ok ⟨.double d, offset, text⟩
    | none => .error ⟨.numberOutOfRange, offset⟩

def scanFraction (negative : Bool) (digits : Nat) (exponent : Int) (offset : Nat)
    (text : List Char) : Except Mishap (Scanned Number) :=
  let fraction := text.takeWhile Char.isDigit
  let rest := text.dropWhile Char.isDigit
  let gathered := gather digits fraction
  match fraction with
  | [] => .error (if text.isEmpty then ⟨.endInValue, offset⟩ else ⟨.invalidNumber, offset + 1⟩)
  | _ :: _ =>
    scanScaled negative gathered.value (exponent - gathered.held) (offset + fraction.length) rest

/-- An integer without fraction or exponent. Minus zero, which no integer can hold, is a double. -/
def integer (negative : Bool) (value : Nat) : Number :=
  if !negative then .int value
  else if value = 0 ∨ Nat.pow 2 63 < value then .double (.ofRatio true value 1)
  else .int (-(value : Int))

/-- Reads a numeral whose sign has been read. -/
def scanNumber (negative : Bool) (offset : Nat) (text : List Char) :
    Except Mishap (Scanned Number) :=
  let whole := text.takeWhile Char.isDigit
  let rest := text.dropWhile Char.isDigit
  let gathered := gather 0 whole
  let dropped : Nat := whole.length - gathered.held
  let offset' := offset + whole.length
  match whole with
  | [] => .error (if text.isEmpty then ⟨.endInValue, offset⟩ else ⟨.invalidNumber, offset + 1⟩)
  | '0' :: _ :: _ => .error ⟨.invalidNumber, offset + 2⟩
  | _ :: _ =>
    if rest.head? == some '.' then
      scanFraction negative gathered.value dropped (offset' + 1) rest.tail
    else if gathered.full || rest.head? == some 'e' || rest.head? == some 'E' then
      scanScaled negative gathered.value dropped offset' rest
    else .ok ⟨integer negative gathered.value, offset', rest⟩

end DocSearch.Json
