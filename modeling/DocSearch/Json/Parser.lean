import DocSearch.Json.Token

namespace DocSearch.Json

/-! The reader consumes one token at a time and keeps the containers that are open around it, so
it recurses on nothing but the list of tokens. `Json.parse` reads a whole text or tells where and
why it is not JSON. -/

/-- A container that waits for a value inside it; what it holds so far is listed last first. -/
inductive Frame where
  | array (elements : List Json)
  | object (members : List (String × Json)) (key : String)

inductive Expect where
  | value
  /-- An element, or the end of an array in which nothing was read. -/
  | element (elements : List Json) (first : Bool)
  | elementEnd (elements : List Json)
  /-- A key, or the end of an object in which nothing was read. -/
  | key (members : List (String × Json)) (first : Bool)
  | colon (members : List (String × Json)) (key : String)
  | memberEnd (members : List (String × Json))
  | nothing (value : Json)

structure Reader where
  frames : List Frame
  expect : Expect

/-- How many containers may be open at once. -/
def depthLimit : Nat := 127

namespace Reader

def start : Reader := ⟨[], .value⟩

/-- Hands a finished value to the innermost open container. -/
def complete (value : Json) : List Frame → Reader
  | [] => ⟨[], .nothing value⟩
  | .array elements :: frames => ⟨frames, .elementEnd (value :: elements)⟩
  | .object members key :: frames => ⟨frames, .memberEnd ((key, value) :: members)⟩

def readValue (frames : List Frame) (token : Token) : Except Mishap Reader :=
  let enter (expect : Expect) : Except Mishap Reader :=
    if depthLimit ≤ frames.length then .error ⟨.recursionLimit, token.offset + 1⟩
    else .ok ⟨frames, expect⟩
  match token.lexeme with
  | .scalar value => .ok (complete value frames)
  | .text value => .ok (complete (.str value) frames)
  | .openArray => enter (.element [] true)
  | .openObject => enter (.key [] true)
  | .badScalar mishap => .error mishap
  | .badText mishap => .error mishap
  | _ => .error ⟨.expectedValue, token.offset + 1⟩

def read (reader : Reader) (token : Token) : Except Mishap Reader :=
  let frames := reader.frames
  let refuse (fault : Fault) : Except Mishap Reader := .error ⟨fault, token.offset + 1⟩
  match reader.expect, token.lexeme with
  | .value, _ => readValue frames token
  | .element elements first, .closeArray =>
    if first then .ok (complete (.arr elements.reverse) frames) else refuse .trailingComma
  | .element elements _, _ => readValue (.array elements :: frames) token
  | .elementEnd elements, .closeArray => .ok (complete (.arr elements.reverse) frames)
  | .elementEnd elements, .comma => .ok ⟨frames, .element elements false⟩
  | .elementEnd _, _ => refuse .expectedListCommaOrEnd
  | .key members first, .closeObject =>
    if first then .ok (complete (object members.reverse) frames) else refuse .trailingComma
  | .key members _, .text key => .ok ⟨frames, .colon members key⟩
  | .key _ _, .badText mishap => .error mishap
  | .key _ _, _ => refuse .keyNotString
  | .colon members key, .colon => .ok ⟨.object members key :: frames, .value⟩
  | .colon _ _, _ => refuse .expectedColon
  | .memberEnd members, .closeObject => .ok (complete (object members.reverse) frames)
  | .memberEnd members, .comma => .ok ⟨frames, .key members false⟩
  | .memberEnd _, _ => refuse .expectedObjectCommaOrEnd
  | .nothing _, _ => refuse .trailingCharacters

/-- What the end of the text means for a reader. -/
def finish (reader : Reader) : Except Fault Json :=
  match reader.expect with
  | .nothing value => .ok value
  | .value => .error .endInValue
  | .element _ first => .error (if first then .endInList else .endInValue)
  | .elementEnd _ => .error .endInList
  | .key _ first => .error (if first then .endInObject else .endInValue)
  | .colon _ _ => .error .endInObject
  | .memberEnd _ => .error .endInObject

/-- Reads all tokens of a text of `size` bytes. -/
def run (size : Nat) (reader : Reader) : List Token → Except Mishap Json
  | [] =>
    match reader.finish with
    | .ok value => .ok value
    | .error fault => .error ⟨fault, size⟩
  | token :: rest =>
    match reader.read token with
    | .ok next => run size next rest
    | .error mishap => .error mishap

end Reader

def parse (text : String) : Except ParseError Json :=
  let chars := text.toList
  match Reader.start.run (byteCount chars) (tokens chars) with
  | .ok value => .ok value
  | .error mishap => .error (mishap.locate chars)

end DocSearch.Json
