import DocSearch.Json.Basic
import DocSearch.Double.Text

namespace DocSearch

/-! No blanks, members in key order. Only quotes, backslashes and control characters are escaped.
-/

def hexDigit (n : Nat) : Char := if n < 10 then Char.ofNat (48 + n) else Char.ofNat (87 + n)

/-- `count` hexadecimal digits of a number, the most significant first. -/
def hexDigits : Nat → Nat → List Char
  | 0, _ => []
  | count + 1, n => hexDigits count (n / 16) ++ [hexDigit (n % 16)]

namespace Json

def escapeChar (c : Char) : List Char :=
  match c with
  | '\"' => ['\\', '\"']
  | '\\' => ['\\', '\\']
  | '\n' => ['\\', 'n']
  | '\r' => ['\\', 'r']
  | '\t' => ['\\', 't']
  | '\x08' => ['\\', 'b']
  | '\x0c' => ['\\', 'f']
  | c => if c.toNat < 32 then ['\\', 'u'] ++ hexDigits 4 c.toNat else [c]

def quote (text : String) : String :=
  "\"" ++ String.ofList (text.toList.flatMap escapeChar) ++ "\""

def renderNumber : Number → String
  | .int i => toString i
  | .double d => d.render

mutual
def render : Json → String
  | .null => "null"
  | .bool true => "true"
  | .bool false => "false"
  | .num n => renderNumber n
  | .str s => quote s
  | .arr elements => "[" ++ renderElements elements ++ "]"
  | .obj members => "\x7b" ++ renderMembers members ++ "\x7d"

def renderElements : List Json → String
  | [] => ""
  | [v] => render v
  | v :: w :: rest => render v ++ "," ++ renderElements (w :: rest)

def renderMembers : List (String × Json) → String
  | [] => ""
  | [(k, v)] => quote k ++ ":" ++ render v
  | (k, v) :: m :: rest => quote k ++ ":" ++ render v ++ "," ++ renderMembers (m :: rest)
end

end Json

end DocSearch
