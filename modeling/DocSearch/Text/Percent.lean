import DocSearch.Text.Numeral

namespace DocSearch.Percent

/-! A byte is written as a percent sign and two hexadecimal digits. A percent sign that is not
followed by two digits stands for itself. -/

def upperHexDigit (n : Nat) : Char := if n < 10 then Char.ofNat (48 + n) else Char.ofNat (55 + n)

def encodeByte (byte : UInt8) : List Char :=
  ['%', upperHexDigit (byte.toNat / 16), upperHexDigit (byte.toNat % 16)]

def encodeChar (c : Char) : List Char := (String.utf8EncodeChar c).flatMap encodeByte

def encode (mustEncode : Char → Bool) (text : List Char) : List Char :=
  text.flatMap fun c => if mustEncode c then encodeChar c else [c]

/-- The bytes of a text with the encoded ones decoded. -/
def decodeBytes : List Char → List UInt8
  | '%' :: a :: b :: rest =>
    match Numeral.digit? 16 a, Numeral.digit? 16 b with
    | some high, some low => UInt8.ofNat (high * 16 + low) :: decodeBytes rest
    | _, _ => 37 :: decodeBytes (a :: b :: rest)
  | c :: rest => String.utf8EncodeChar c ++ decodeBytes rest
  | [] => []

/-- The text that encoded bytes write, unless they are no text. -/
def decode? (text : List Char) : Option String :=
  String.fromUTF8? ⟨(decodeBytes text).toArray⟩

end DocSearch.Percent
