import DocSearch.Json.Numeral
import DocSearch.Text.Numeral

namespace DocSearch.Json

/-! A token knows the byte it starts at. A text that cannot be read on ends in a token that holds
the fault, since the fault counts only if the text is well-formed up to it. -/

inductive Lexeme where
  | openArray
  | closeArray
  | openObject
  | closeObject
  | comma
  | colon
  /-- `null`, a truth value or a number. -/
  | scalar (value : Json)
  | text (value : String)
  | badScalar (mishap : Mishap)
  | badText (mishap : Mishap)
  /-- A character that starts no token. -/
  | other

structure Token where
  offset : Nat
  lexeme : Lexeme

/-- The number that four hexadecimal digits write. -/
def hexWord? (a b c d : Char) : Option Nat := Numeral.value? 16 [a, b, c, d]

def byteCount (text : List Char) : Nat := text.foldl (fun n c => n + c.utf8Size) 0

/-- The fault of an escape that lacks its four hexadecimal digits: the text ends, or one of the
next four bytes is no digit. -/
def hexMishap (offset : Nat) (text : List Char) : Mishap :=
  if byteCount text < 4 then ⟨.endInString, offset + byteCount text⟩
  else ⟨.invalidEscape, offset + 4⟩

/-- The character after a backslash, `u` aside. -/
def simpleEscape? (c : Char) : Option Char :=
  match c with
  | '\"' => some '\"'
  | '\\' => some '\\'
  | '/' => some '/'
  | 'b' => some '\x08'
  | 'f' => some '\x0c'
  | 'n' => some '\n'
  | 'r' => some '\r'
  | 't' => some '\t'
  | _ => none

def isLeadingSurrogate (n : Nat) : Bool := 0xD800 ≤ n && n ≤ 0xDBFF

def isTrailingSurrogate (n : Nat) : Bool := 0xDC00 ≤ n && n ≤ 0xDFFF

def pairChar (leading trailing : Nat) : Char :=
  Char.ofNat ((leading - 0xD800) * 0x400 + (trailing - 0xDC00) + 0x10000)

/-- Reads a string after its opening quote; `before` holds the characters read, last first. -/
def scanString (offset : Nat) (before : List Char) :
    List Char → Except Mishap (Scanned String)
  | [] => .error ⟨.endInString, offset⟩
  | '\"' :: rest => .ok ⟨String.ofList before.reverse, offset + 1, rest⟩
  | '\\' :: escape =>
    match escape with
    | [] => .error ⟨.endInString, offset + 1⟩
    | 'u' :: digits =>
      match digits with
      | a :: b :: c :: d :: rest =>
        match hexWord? a b c d with
        | none => .error (hexMishap (offset + 2) digits)
        | some n =>
          if isTrailingSurrogate n then .error ⟨.loneSurrogate, offset + 6⟩
          else if isLeadingSurrogate n then
            match rest with
            | [] => .error ⟨.endInString, offset + 6⟩
            | '\\' :: [] => .error ⟨.endInString, offset + 7⟩
            | '\\' :: 'u' :: digits =>
              match digits with
              | e :: f :: g :: h :: rest =>
                match hexWord? e f g h with
                | none => .error (hexMishap (offset + 8) digits)
                | some m =>
                  if isTrailingSurrogate m then
                    scanString (offset + 12) (pairChar n m :: before) rest
                  else .error ⟨.loneSurrogate, offset + 12⟩
              | _ => .error (hexMishap (offset + 8) digits)
            | '\\' :: _ => .error ⟨.unfinishedSurrogatePair, offset + 8⟩
            | _ => .error ⟨.unfinishedSurrogatePair, offset + 7⟩
          else scanString (offset + 6) (Char.ofNat n :: before) rest
      | _ => .error (hexMishap (offset + 2) digits)
    | c :: rest =>
      match simpleEscape? c with
      | some meant => scanString (offset + 2) (meant :: before) rest
      | none => .error ⟨.invalidEscape, offset + 2⟩
  | c :: rest =>
    if c.toNat < 32 then .error ⟨.controlCharacter, offset + 1⟩
    else scanString (offset + c.utf8Size) (c :: before) rest

/-- Reads the rest of a word that has to be spelled as given. -/
def scanWord (value : Json) (offset : Nat) : List Char → List Char → Except Mishap (Scanned Json)
  | [], text => .ok ⟨value, offset, text⟩
  | _ :: _, [] => .error ⟨.endInValue, offset⟩
  | w :: word, c :: text =>
    if w = c then scanWord value (offset + 1) word text else .error ⟨.expectedIdent, offset + 1⟩

def isBlank (c : Char) : Bool := c == ' ' || c == '\n' || c == '\t' || c == '\r'

/-- The token that starts with `c` at `offset`; a readable one comes with what follows it. -/
def scanToken (offset : Nat) (c : Char) (text : List Char) : Lexeme × Option (Nat × List Char) :=
  let next := some (offset + 1, text)
  let scalar (scanned : Except Mishap (Scanned Json)) : Lexeme × Option (Nat × List Char) :=
    match scanned with
    | .ok s => (.scalar s.value, some (s.offset, s.rest))
    | .error mishap => (.badScalar mishap, none)
  let number (negative : Bool) (offset : Nat) (text : List Char) :=
    scalar ((scanNumber negative offset text).map fun s => ⟨.num s.value, s.offset, s.rest⟩)
  match c with
  | '[' => (.openArray, next)
  | ']' => (.closeArray, next)
  | '\x7b' => (.openObject, next)
  | '\x7d' => (.closeObject, next)
  | ',' => (.comma, next)
  | ':' => (.colon, next)
  | 'n' => scalar (scanWord .null (offset + 1) "ull".toList text)
  | 't' => scalar (scanWord (.bool true) (offset + 1) "rue".toList text)
  | 'f' => scalar (scanWord (.bool false) (offset + 1) "alse".toList text)
  | '\"' =>
    match scanString (offset + 1) [] text with
    | .ok s => (.text s.value, some (s.offset, s.rest))
    | .error mishap => (.badText mishap, none)
  | '-' => number true (offset + 1) text
  | c => if c.isDigit then number false offset (c :: text) else (.other, none)

/-- The tokens of a text, as far as it can be read, at most `fuel` of them. Every token takes a
character, so the length of the text is fuel enough. -/
def tokensFrom : Nat → Nat → List Char → List Token
  | 0, _, _ => []
  | _, _, [] => []
  | fuel + 1, offset, c :: text =>
    if isBlank c then tokensFrom fuel (offset + 1) text
    else
      match scanToken offset c text with
      | (lexeme, some (offset', rest)) => ⟨offset, lexeme⟩ :: tokensFrom fuel offset' rest
      | (lexeme, none) => [⟨offset, lexeme⟩]

def tokens (text : List Char) : List Token := tokensFrom text.length 0 text

end DocSearch.Json
