import DocSearch.Json.Token

namespace DocSearch.Toml

/-! The texts of a TOML document: blanks, comments, line breaks and strings. A string is basic,
with escapes, or literal, and either kind may span lines between triple quotes. The break right
after the opening quotes does not count, and neither does one behind a backslash. -/

def isBlank (c : Char) : Bool := c == ' ' || c == '\t'

def skipBlanks (text : List Char) : List Char := text.dropWhile isBlank

/-- Characters of comments and strings; controls are not among them, the tab aside. -/
def isPrintable (c : Char) : Bool := c == '\t' || (32 ≤ c.toNat && c.toNat != 127)

/-- What follows a comment, if one starts here. -/
def skipComment : List Char → List Char
  | '#' :: rest => rest.dropWhile isPrintable
  | text => text

def lineBreak? : List Char → Option (List Char)
  | '\n' :: rest => some rest
  | '\r' :: '\n' :: rest => some rest
  | _ => none

/-- What follows the end of a line, blanks and a comment aside. -/
def lineEnd? (text : List Char) : Option (List Char) :=
  match skipComment (skipBlanks text) with
  | [] => some []
  | text => lineBreak? text

/-- Skips blanks, comments and line ends, at most `fuel` lines of them. -/
def skipLines : Nat → List Char → List Char
  | 0, text => text
  | fuel + 1, text =>
    match lineBreak? (skipComment (skipBlanks text)) with
    | some rest => skipLines fuel rest
    | none => skipBlanks text

/-- The character that hexadecimal digits give the code of. -/
def coded? (digits : List Char) : Option Char := do
  let n ← Numeral.value? 16 digits
  if n.isValidChar then some (Char.ofNat n) else none

/-- The character after a backslash that has a name. -/
def named? (c : Char) : Option Char := if c = '/' then none else Json.simpleEscape? c

/-- Only blanks come before the next line break. -/
def endsLine (text : List Char) : Bool := (lineBreak? (skipBlanks text)).isSome

/-- Reads a basic string after its opening quotes. `before` holds the characters read, last first;
while `skipping`, blanks and line breaks are left out. Up to two quotes may precede the three that
close a string of several lines. -/
def basicString (multiline skipping : Bool) (before : List Char) :
    List Char → Option (String × List Char)
  | [] => none
  | '\\' :: 'u' :: a :: b :: c :: d :: rest =>
    match coded? [a, b, c, d] with
    | some char => basicString multiline false (char :: before) rest
    | none => none
  | '\\' :: 'U' :: a :: b :: c :: d :: e :: f :: g :: h :: rest =>
    match coded? [a, b, c, d, e, f, g, h] with
    | some char => basicString multiline false (char :: before) rest
    | none => none
  | '\\' :: c :: rest =>
    match named? c with
    | some char => basicString multiline false (char :: before) rest
    | none =>
      if multiline && endsLine (c :: rest) then basicString multiline true before rest else none
  | '\"' :: '\"' :: '\"' :: rest =>
    if !multiline then some (String.ofList before.reverse, '\"' :: '\"' :: rest)
    else
      let extra := (rest.take 2).takeWhile (· == '\"')
      some (String.ofList (before.reverse ++ extra), rest.drop extra.length)
  | '\r' :: '\n' :: rest =>
    if !multiline then none
    else basicString multiline skipping (if skipping then before else '\n' :: before) rest
  | c :: rest =>
    if c = '\"' ∧ !multiline then some (String.ofList before.reverse, rest)
    else if skipping && (isBlank c || c == '\n') then basicString multiline true before rest
    else if isPrintable c || (multiline && c == '\n') then
      basicString multiline false (c :: before) rest
    else none

/-- Reads a literal string of several lines after its opening quotes. -/
def literalLines (before : List Char) : List Char → Option (String × List Char)
  | [] => none
  | '\'' :: '\'' :: '\'' :: rest =>
    let extra := (rest.take 2).takeWhile (· == '\'')
    some (String.ofList (before.reverse ++ extra), rest.drop extra.length)
  | '\r' :: '\n' :: rest => literalLines ('\n' :: before) rest
  | c :: rest => if isPrintable c || c == '\n' then literalLines (c :: before) rest else none

/-- Reads a literal string of one line after its opening quote. -/
def literalString (text : List Char) : Option (String × List Char) :=
  let inner := text.takeWhile fun c => isPrintable c && c != '\''
  match text.drop inner.length with
  | '\'' :: rest => some (String.ofList inner, rest)
  | _ => none

/-- The text after opening quotes, without a line break at its start. -/
def afterQuotes (text : List Char) : List Char := (lineBreak? text).getD text

def quoted? : List Char → Option (String × List Char)
  | '\"' :: rest => basicString false false [] rest
  | '\'' :: rest => literalString rest
  | _ => none

def string? : List Char → Option (String × List Char)
  | '\"' :: '\"' :: '\"' :: rest => basicString true false [] (afterQuotes rest)
  | '\'' :: '\'' :: '\'' :: rest => literalLines [] (afterQuotes rest)
  | text => quoted? text

def isBareKeyChar (c : Char) : Bool := c.isAlphanum || c == '_' || c == '-'

/-- Reads one name of a key, bare or quoted. -/
def name? (text : List Char) : Option (String × List Char) :=
  match quoted? text with
  | some found => some found
  | none =>
    let name := text.takeWhile isBareKeyChar
    if name.isEmpty then none else some (String.ofList name, text.dropWhile isBareKeyChar)

/-- Reads a key, which is up to `fuel` names with dots between. -/
def key? : Nat → List Char → Option (List String × List Char)
  | 0, _ => none
  | fuel + 1, text => do
    let (name, rest) ← name? (skipBlanks text)
    match skipBlanks rest with
    | '.' :: rest =>
      let (names, rest) ← key? fuel rest
      return (name :: names, rest)
    | rest => return ([name], rest)

end DocSearch.Toml
