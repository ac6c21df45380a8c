import DocSearch.Text.Basic
import DocSearch.Text.Numeral

namespace DocSearch

/-! Addresses of version 4 are numbers of 32 bits. They are written in up to four parts between
dots; the last part stands for all bytes that the parts before it leave. -/

structure IPv4 where
  number : UInt32
  deriving DecidableEq, Repr

namespace IPv4

/-- The number that a part writes: hexadecimal after `0x`, octal after `0`, decimal otherwise. -/
def part? (text : List Char) : Option Nat :=
  match text with
  | '0' :: x :: digits =>
    if x = 'x' ∨ x = 'X' then if digits.isEmpty then some 0 else Numeral.value? 16 digits
    else Numeral.value? 8 (x :: digits)
  | digits => Numeral.value? 10 digits

/-- The parts of a text; a dot at its end starts no further part. -/
def parts (text : List Char) : List (List Char) :=
  let pieces := Text.pieces (· == '.') text
  if 1 < pieces.length ∧ pieces.getLast? = some [] then pieces.dropLast else pieces

/-- The text cannot be anything but an address, since its last part is a number or has digits
only. -/
def isMeant (text : List Char) : Bool :=
  (parts text).getLast?.any fun last =>
    (!last.isEmpty && last.all Char.isDigit) || (part? last).isSome

def ofParts? (parts : List Nat) : Option IPv4 :=
  match parts.reverse with
  | last :: before =>
    if 3 < before.length ∨ before.any (255 < ·) ∨ Nat.pow 256 (4 - before.length) ≤ last then none
    else
      let high := before.foldr (fun byte n => n * 256 + byte) 0
      some ⟨.ofNat (high * Nat.pow 256 (4 - before.length) + last)⟩
  | [] => none

def parse? (text : List Char) : Option IPv4 := ((parts text).mapM part?).bind ofParts?

def bytes (address : IPv4) : List Nat :=
  let n := address.number.toNat
  [n / 16777216, n / 65536 % 256, n / 256 % 256, n % 256]

def text (address : IPv4) : String := ".".intercalate (address.bytes.map toString)

end IPv4

end DocSearch
