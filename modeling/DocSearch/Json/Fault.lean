namespace DocSearch.Json

/-! A reader meets a fault after so many bytes; the report to the user counts lines and columns.
-/

inductive Fault where
  | endInValue
  | endInList
  | endInObject
  | endInString
  | expectedValue
  | expectedIdent
  | expectedColon
  | expectedListCommaOrEnd
  | expectedObjectCommaOrEnd
  | keyNotString
  | trailingComma
  | trailingCharacters
  | invalidNumber
  | numberOutOfRange
  | invalidEscape
  | controlCharacter
  | loneSurrogate
  | unfinishedSurrogatePair
  | recursionLimit
  deriving DecidableEq, Repr

/-- A fault and the number of bytes read when it showed. -/
structure Mishap where
  fault : Fault
  offset : Nat
  deriving DecidableEq, Repr

def Fault.text : Fault → String
  | .endInValue => "EOF while parsing a value"
  | .endInList => "EOF while parsing a list"
  | .endInObject => "EOF while parsing an object"
  | .endInString => "EOF while parsing a string"
  | .expectedValue => "expected value"
  | .expectedIdent => "expected ident"
  | .expectedColon => "expected `:`"
  | .expectedListCommaOrEnd => "expected `,` or `]`"
  | .expectedObjectCommaOrEnd => "expected `,` or `\x7d`"
  | .keyNotString => "key must be a string"
  | .trailingComma => "trailing comma"
  | .trailingCharacters => "trailing characters"
  | .invalidNumber => "invalid number"
  | .numberOutOfRange => "number out of range"
  | .invalidEscape => "invalid escape"
  | .controlCharacter => "control character (\\u0000-\\u001F) found while parsing a string"
  | .loneSurrogate => "lone leading surrogate in hex escape"
  | .unfinishedSurrogatePair => "unexpected end of hex escape"
  | .recursionLimit => "recursion limit exceeded"

/-- Why a text is not JSON, and the line and byte column reached. -/
structure ParseError where
  fault : Fault
  line : Nat
  column : Nat
  deriving DecidableEq, Repr

def ParseError.message (e : ParseError) : String :=
  e.fault.text ++ " at line " ++ toString e.line ++ " column " ++ toString e.column

/-- Line, from one, and column, in bytes, after `bytes` bytes of a text. -/
def place (line column bytes : Nat) : List Char → Nat × Nat
  | [] => (line, column)
  | c :: text =>
    if bytes = 0 then (line, column)
    else if c = '\n' then place (line + 1) 0 (bytes - 1) text
    else place line (column + min c.utf8Size bytes) (bytes - c.utf8Size) text

def Mishap.locate (mishap : Mishap) (text : List Char) : ParseError :=
  let (line, column) := place 1 0 mishap.offset text
  { fault := mishap.fault, line, column }

end DocSearch.Json
