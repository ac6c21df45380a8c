import DocSearch.Text.Basic

namespace DocSearch.Punycode

/-! A text is written in ASCII: first its characters of ASCII as they stand, then, after a hyphen,
where each of the others goes, in rising order of characters. A step from one place to the next is
written in base 36, lowest digit first. A digit below its threshold ends the number; thresholds
follow the size of the steps before. -/

/-- The digits are the letters and then the digits of decimal numerals. -/
def digit (value : Nat) : Char :=
  if value < 26 then Char.ofNat (97 + value) else Char.ofNat (22 + value)

def digitValue? (c : Char) : Option Nat :=
  if c.isLower then some (c.toNat - 97)
  else if c.isUpper then some (c.toNat - 65)
  else if c.isDigit then some (c.toNat - 22)
  else none

/-- The threshold of a digit that stands `place` digits after the first. -/
def threshold (bias place : Nat) : Nat := min 26 (max 1 (36 * (place + 1) - bias))

/-- How often a step is divided by 35 until it is at most 455, and what is left of it. -/
def shrink (step : Nat) : Nat × Nat :=
  if 455 < step then
    let (count, rest) := shrink (step / 35)
    (count + 1, rest)
  else (0, step)
termination_by step
decreasing_by omega

/-- The bias after a step, with `count` characters placed. -/
def adapt (step count : Nat) (isFirst : Bool) : Nat :=
  let scaled := if isFirst then step / 700 else step / 2
  let (times, rest) := shrink (scaled + scaled / count)
  36 * times + 36 * rest / (rest + 38)

theorem one_le_threshold (bias place : Nat) : 1 ≤ threshold bias place := by
  simp only [threshold]
  omega

def writeStep (bias place step : Nat) : List Char :=
  let t := threshold bias place
  if step < t then [digit step]
  else digit (t + (step - t) % (36 - t)) :: writeStep bias (place + 1) ((step - t) / (36 - t))
termination_by step
decreasing_by
  have least := one_le_threshold bias place
  have shrinks := Nat.div_le_self (step - threshold bias place) (36 - threshold bias place)
  omega

/-- Reads the digits of a step. The sum so far and the worth of the next digit are given; the
result is what the sum becomes, and what follows. -/
def readStep? (bias place sum worth : Nat) : List Char → Option (Nat × List Char)
  | [] => none
  | c :: rest =>
    match digitValue? c with
    | none => none
    | some d =>
      if d < threshold bias place then some (sum + d * worth, rest)
      else
        readStep? bias (place + 1) (sum + d * worth) (worth * (36 - threshold bias place)) rest

theorem readStep?_shorter
    (found : readStep? bias place sum worth text = some (total, rest)) :
    rest.length < text.length := by
  induction text generalizing place sum worth with
  | nil => simp [readStep?] at found
  | cons c text ih =>
      unfold readStep? at found
      split at found
      · simp at found
      · split at found
        · simp only [Option.some.injEq, Prod.mk.injEq] at found
          simp [found.2]
        · have shorter := ih found
          simp only [List.length_cons]
          omega

/-- Writing in progress: the digits so far, the step since the last character was placed, and how
many characters were placed. -/
structure Writing where
  digits : List Char
  step : Nat
  bias : Nat
  placed : Nat

/-- Passes a character of the text while those with the code `code` are placed. -/
def Writing.pass (basic code : Nat) (writing : Writing) (c : Char) : Writing :=
  if c.toNat < code then { writing with step := writing.step + 1 }
  else if c.toNat = code then {
    digits := writing.digits ++ writeStep writing.bias 0 writing.step
    step := 0
    bias := adapt writing.step (writing.placed + 1) (writing.placed == basic)
    placed := writing.placed + 1 }
  else writing

/-- Places the characters with each of the given codes, which rise from `next` on. -/
def writeCodes (text : List Char) (basic : Nat) :
    Nat → List Nat → Writing → Writing
  | _, [], writing => writing
  | next, code :: codes, writing =>
    let start := { writing with step := writing.step + (code - next) * (writing.placed + 1) }
    let done := text.foldl (Writing.pass basic code) start
    writeCodes text basic (code + 1) codes { done with step := done.step + 1 }

/-- Adds a code to codes in rising order. -/
def insertCode (code : Nat) : List Nat → List Nat
  | [] => [code]
  | first :: rest =>
    if code < first then code :: first :: rest
    else if code = first then first :: rest
    else first :: insertCode code rest

def encode (text : List Char) : List Char :=
  let basic := text.filter (·.toNat < 128)
  let codes := (text.filter (127 < ·.toNat)).foldr (fun c codes => insertCode c.toNat codes) []
  let start : Writing := { digits := [], step := 0, bias := 72, placed := basic.length }
  let written := writeCodes text basic.length 128 codes start
  (if basic.isEmpty then [] else basic ++ ['-']) ++ written.digits

/-- The greatest number that counts as a step or as a code. -/
def greatest : Nat := Nat.pow 2 32 - 1

/-- Puts characters into a text, one for each step. The next one goes to `place` if its step is
zero, and its code is `code` or higher. -/
def readSteps? (bias code place : Nat) (isFirst : Bool) (text digits : List Char) :
    Option (List Char) :=
  match digits with
  | [] => some text
  | c :: rest =>
    match found : readStep? bias 0 place 1 (c :: rest) with
    | none => none
    | some (total, after) =>
      let count := text.length + 1
      let code := code + total / count
      let place' := total % count
      if greatest < total ∨ ¬code.isValidChar then none
      else
        have : after.length < (c :: rest).length := readStep?_shorter found
        readSteps? (adapt (total - place) count isFirst) code (place' + 1) false
          (text.take place' ++ Char.ofNat code :: text.drop place') after
termination_by digits.length
decreasing_by
  simpa using this

/-- The characters of ASCII, and the digits after the last hyphen. A hyphen at the start is no
hyphen after characters. -/
def parts (text : List Char) : List Char × List Char :=
  let digits := (text.reverse.takeWhile (· != '-')).reverse
  let basic := text.take (text.length - digits.length - 1)
  if basic.isEmpty then ([], text) else (basic, digits)

def decode? (text : List Char) : Option (List Char) :=
  let (basic, digits) := parts text
  if text.any (127 < ·.toNat) then none
  else readSteps? 72 128 0 true basic digits

end DocSearch.Punycode
