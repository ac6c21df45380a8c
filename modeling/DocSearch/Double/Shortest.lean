import DocSearch.Double.Basic

namespace DocSearch

/-! A double stands for an interval of reals, all those that round to it. `Double.shortest` gives
the decimal with the fewest digits in that interval, and of those the one nearest to the double.
Where two of them are equally near, the format that is written decides. -/

structure Decimal where
  digits : Nat
  exponent : Int
  deriving DecidableEq, Repr

namespace Decimal

/-- The same number with at most `fuel` trailing zeros moved from the digits to the exponent. -/
def stripZeros : Nat → Decimal → Decimal
  | 0, d => d
  | fuel + 1, d =>
    if d.digits ≠ 0 ∧ d.digits % 10 = 0 then
      stripZeros fuel ⟨d.digits / 10, d.exponent + 1⟩
    else d

end Decimal

namespace Double

/-- The reals that round to a positive double, over one denominator. -/
structure Interval where
  low : Nat
  value : Nat
  high : Nat
  denominator : Nat
  /-- The ends belong to the interval. -/
  closed : Bool

/-- Half the gap to each neighbour; below a power of two the gap is half as wide. -/
def interval (d : Double) : Interval :=
  let m := d.significand
  let below := if m = Nat.pow 2 52 ∧ -1074 < d.exponent then 1 else 2
  let scale := d.exponent - 2
  let unit := if 0 ≤ scale then Nat.pow 2 scale.toNat else 1
  { low := (4 * m - below) * unit
    value := 4 * m * unit
    high := (4 * m + 2) * unit
    denominator := if 0 ≤ scale then 1 else Nat.pow 2 (-scale).toNat
    closed := m % 2 = 0 }

namespace Interval

/-- The interval in units of `10 ^ power`. -/
def inUnits (i : Interval) (power : Int) : Interval :=
  if 0 ≤ power then { i with denominator := i.denominator * Nat.pow 10 power.toNat }
  else
    let factor := Nat.pow 10 (-power).toNat
    { i with low := i.low * factor, value := i.value * factor, high := i.high * factor }

def contains (i : Interval) (n : Nat) : Bool :=
  let point := n * i.denominator
  if i.closed then i.low ≤ point && point ≤ i.high else i.low < point && point < i.high

/-- The integer of the interval nearest to its value, if one lies in it. -/
def nearest? (tie : Ratio.Tie) (i : Interval) : Option Nat :=
  let floor := i.value / i.denominator
  match i.contains floor, i.contains (floor + 1) with
  | true, true => some (Ratio.roundTie tie i.value i.denominator)
  | true, false => some floor
  | false, true => some (floor + 1)
  | false, false => none

/-- The nearest decimal of the interval with the least number of digits from `count` on, trying
`more` numbers of digits after `count`. -/
def search (tie : Ratio.Tie) (i : Interval) (leading : Int) (count more : Nat) : Decimal :=
  let power := leading - count + 1
  let scaled := i.inUnits power
  match scaled.nearest? tie, more with
  | some digits, _ => ⟨digits, power⟩
  | none, 0 => ⟨Ratio.roundTie tie scaled.value scaled.denominator, power⟩
  | none, more + 1 => search tie i leading (count + 1) more

end Interval

/-- The shortest decimal that reads back as a given positive double. Seventeen digits always
suffice. -/
def shortest (tie : Ratio.Tie) (d : Double) : Decimal :=
  let i := d.interval
  let leading := Ratio.floorLogTen i.value i.denominator
  (i.search tie leading 1 16).stripZeros 17

end Double

end DocSearch
