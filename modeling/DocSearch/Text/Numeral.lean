namespace DocSearch.Numeral

/-! Numerals without sign in a base of at most sixteen. Letters of either case stand for the digits
from ten on. -/

def digit? (base : Nat) (c : Char) : Option Nat :=
  let value :=
    if '0' ≤ c ∧ c ≤ '9' then some (c.toNat - 48)
    else if 'a' ≤ c ∧ c ≤ 'f' then some (c.toNat - 87)
    else if 'A' ≤ c ∧ c ≤ 'F' then some (c.toNat - 55)
    else none
  value.filter (· < base)

def isDigit (base : Nat) (c : Char) : Bool := (digit? base c).isSome

def valueFrom? (base start : Nat) : List Char → Option Nat
  | [] => some start
  | c :: rest => (digit? base c).bind fun d => valueFrom? base (start * base + d) rest

/-- The number that digits write; there has to be one. -/
def value? (base : Nat) (digits : List Char) : Option Nat :=
  if digits.isEmpty then none else valueFrom? base 0 digits

/-- A number in hexadecimal digits, without leading zeros. -/
def hexText (n : Nat) : String := String.ofList (Nat.toDigits 16 n)

theorem decimal_inj {m n : Nat} : toString m = toString n ↔ m = n := by
  refine ⟨fun same => ?_, fun same => same ▸ rfl⟩
  simp only [Nat.toString_eq_ofList_toDigits, String.ofList_inj] at same
  rw [← Nat.ofDigitChars_ten_toDigits (n := m), same, Nat.ofDigitChars_ten_toDigits]

end DocSearch.Numeral
