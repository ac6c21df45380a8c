import DocSearch.Double.Shortest

namespace DocSearch

/-! Both texts write the shortest digits of a number. `Double.render` keeps a decimal point or an
exponent, so that its text never reads as an integer; `Double.display` writes no exponent and no
needless point. Of two shortest decimals that are equally near, the first writes the even one and
the second the greater one. -/

namespace Decimal

/-- The digits with the decimal point after the first `size` of them. -/
def pointAfter (digits : String) (size : Nat) : String :=
  String.ofList (digits.toList.take size) ++ "." ++ String.ofList (digits.toList.drop size)

def zeros (count : Nat) : String := String.ofList (List.replicate count '0')

/-- Positional text, with `integerEnd` after a number without fraction. -/
def positional (d : Decimal) (integerEnd : String) : String :=
  let digits := Nat.repr d.digits
  let point := (digits.length : Int) + d.exponent
  if 0 ≤ d.exponent then digits ++ zeros d.exponent.toNat ++ integerEnd
  else if 0 < point then pointAfter digits point.toNat
  else "0." ++ zeros (-point).toNat ++ digits

/-- One digit, the others after the point, and a signed exponent. -/
def scientific (d : Decimal) : String :=
  let digits := Nat.repr d.digits
  let power := (digits.length : Int) + d.exponent - 1
  let sign := if power < 0 then "-" else "+"
  let leading := if digits.length = 1 then digits else pointAfter digits 1
  leading ++ "e" ++ sign ++ Nat.repr power.natAbs

end Decimal

namespace Double

def signText (d : Double) : String := if d.isNegative then "-" else ""

/-- Positional with at least one decimal from `1e-5` up to `1e16`, scientific beyond. The number
is finite. -/
def render (d : Double) : String :=
  if d.isZero then d.signText ++ "0.0"
  else
    let decimal := d.shortest .toEven
    let point := (Nat.repr decimal.digits).length + decimal.exponent
    d.signText ++
      if -5 < point ∧ point ≤ 16 then decimal.positional ".0" else decimal.scientific

/-- Positional whatever the size; a number without fraction is written without a point. -/
def display (d : Double) : String :=
  if d.isNaN then "NaN"
  else if !d.isFinite then d.signText ++ "inf"
  else if d.isZero then d.signText ++ "0"
  else d.signText ++ (d.shortest .up).positional ""

end Double

end DocSearch
