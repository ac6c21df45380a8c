namespace DocSearch.Base64

/-! Three bytes are written as four characters; what is missing at the end is filled up with `=`.
-/

def alphabet : List Char :=
  "ABCDEFGHIJKLMNOPQRSTUVWXYZabcdefghijklmnopqrstuvwxyz0123456789+/".toList

/-- The character of the lowest six bits. -/
def digit (n : Nat) : Char := alphabet.getD (n % 64) '='

def encodeBytes : List UInt8 → List Char
  | [] => []
  | [a] =>
    let n := a.toNat * 16
    [digit (n / 64), digit n, '=', '=']
  | [a, b] =>
    let n := (a.toNat * 256 + b.toNat) * 4
    [digit (n / 4096), digit (n / 64), digit n, '=']
  | a :: b :: c :: rest =>
    let n := (a.toNat * 256 + b.toNat) * 256 + c.toNat
    digit (n / 262144) :: digit (n / 4096) :: digit (n / 64) :: digit n :: encodeBytes rest

def encode (text : String) : String := String.ofList (encodeBytes text.toUTF8.toList)

end DocSearch.Base64
