namespace DocSearch

/-! Doubles are held as bit patterns and read as exact rational numbers. `ofRatio` rounds an exact
quotient to the nearest double, and the other conversions are stated through it, so every rounding
of the library happens in one place. -/

/-- A binary floating point number of 64 bits, held as its bit pattern. -/
structure Double where
  bits : UInt64
  deriving DecidableEq, Inhabited

namespace Ratio

inductive Tie where
  | toEven
  | up
  deriving DecidableEq, Repr

def roundTie (tie : Tie) (numerator denominator : Nat) : Nat :=
  let quotient := numerator / denominator
  let remainder := numerator % denominator
  if 2 * remainder < denominator then quotient
  else if denominator < 2 * remainder then quotient + 1
  else
    match tie with
    | .toEven => quotient + quotient % 2
    | .up => quotient + 1

/-- The nearest integer; a tie goes to the even one. -/
def round (numerator denominator : Nat) : Nat := roundTie .toEven numerator denominator

/-- The greatest `e` with `2 ^ e ≤ numerator / denominator`, for positive arguments. -/
def floorLogTwo (numerator denominator : Nat) : Int :=
  let estimate : Int := (numerator.log2 : Int) - denominator.log2
  let reached :=
    if 0 ≤ estimate then denominator * Nat.pow 2 estimate.toNat ≤ numerator
    else denominator ≤ numerator * Nat.pow 2 (-estimate).toNat
  if reached then estimate else estimate - 1

/-- The greatest `e` with `10 ^ e ≤ numerator / denominator`, for positive arguments. -/
def floorLogTen (numerator denominator : Nat) : Int :=
  if denominator ≤ numerator then ((Nat.toDigits 10 (numerator / denominator)).length : Int) - 1
  else
    let size := (Nat.toDigits 10 (denominator / numerator)).length
    if denominator ≤ numerator * Nat.pow 10 (size - 1) then 1 - (size : Int) else -(size : Int)

end Ratio

namespace Double

/-- The bits of an infinity, sign aside. -/
def infinityMagnitude : Nat := 2047 * Nat.pow 2 52

/-- All bits but the sign. -/
def magnitude (d : Double) : Nat := d.bits.toNat % Nat.pow 2 63

def isNegative (d : Double) : Bool := Nat.pow 2 63 ≤ d.bits.toNat

def isFinite (d : Double) : Bool := d.magnitude < infinityMagnitude

def isNaN (d : Double) : Bool := infinityMagnitude < d.magnitude

def isZero (d : Double) : Bool := d.magnitude == 0

def ofMagnitude (negative : Bool) (magnitude : Nat) : Double :=
  ⟨UInt64.ofNat (if negative then Nat.pow 2 63 + magnitude else magnitude)⟩

def zero : Double := ofMagnitude false 0

def infinity (negative : Bool) : Double := ofMagnitude negative infinityMagnitude

def notANumber : Double := ofMagnitude false (infinityMagnitude + Nat.pow 2 51)

/-- The integer `m` of a finite number whose absolute value is `m * 2 ^ exponent`. -/
def significand (d : Double) : Nat :=
  if d.magnitude < Nat.pow 2 52 then d.magnitude else d.magnitude % Nat.pow 2 52 + Nat.pow 2 52

/-- The power of two that scales `significand`. -/
def exponent (d : Double) : Int := (max (d.magnitude / Nat.pow 2 52) 1 : Nat) - 1075

/-- Numerator and denominator of the absolute value of a finite number. -/
def ratio (d : Double) : Nat × Nat :=
  if 0 ≤ d.exponent then (d.significand * Nat.pow 2 d.exponent.toNat, 1)
  else (d.significand, Nat.pow 2 (-d.exponent).toNat)

/-- The double nearest to `± numerator / denominator`; a tie goes to the even significand, and
what lies beyond the greatest double becomes infinite. -/
def ofRatio (negative : Bool) (numerator denominator : Nat) : Double :=
  if numerator = 0 then ofMagnitude negative 0
  else
    let scale := max (Ratio.floorLogTwo numerator denominator - 52) (-1074)
    let rounded :=
      if 0 ≤ scale then Ratio.round numerator (denominator * Nat.pow 2 scale.toNat)
      else Ratio.round (numerator * Nat.pow 2 (-scale).toNat) denominator
    ofMagnitude negative (min ((scale + 1074).toNat * Nat.pow 2 52 + rounded) infinityMagnitude)

def ofNat (n : Nat) : Double := ofRatio false n 1

def ofInt (i : Int) : Double := ofRatio (i < 0) i.natAbs 1

def mul (a b : Double) : Double :=
  ofRatio (a.isNegative != b.isNegative) (a.ratio.1 * b.ratio.1) (a.ratio.2 * b.ratio.2)

/-- The rounded quotient of two finite numbers, the second one not zero. -/
def div (a b : Double) : Double :=
  ofRatio (a.isNegative != b.isNegative) (a.ratio.1 * b.ratio.2) (a.ratio.2 * b.ratio.1)

/-- The double nearest to `± digits * 10 ^ exponent`. An exponent that puts the number beyond
every double, or below half of the least one, is not expanded into digits. -/
def ofDecimal (negative : Bool) (digits : Nat) (exponent : Int) : Double :=
  let size := (Nat.toDigits 10 digits).length + exponent
  if digits = 0 ∨ size < -330 then ofMagnitude negative 0
  else if 320 < size then infinity negative
  else if 0 ≤ exponent then ofRatio negative (digits * Nat.pow 10 exponent.toNat) 1
  else ofRatio negative digits (Nat.pow 10 (-exponent).toNat)

/-- The numbers agree as numbers: both zeros are equal, and nothing equals a NaN. -/
def sameValue (a b : Double) : Bool :=
  !a.isNaN && (a == b || (a.isZero && b.isZero))

/-- The nearest natural number below `2 ^ 64`. A half goes up, a negative number or a NaN gives
zero and a greater number gives the last one. -/
def toNatClamped (d : Double) : Nat :=
  if d.isNegative || d.isNaN then 0
  else if !d.isFinite then Nat.pow 2 64 - 1
  else min (Ratio.roundTie .up d.ratio.1 d.ratio.2) (Nat.pow 2 64 - 1)

end Double

end DocSearch
