import DocSearch.Domain.Mark

namespace DocSearch.Domain

/-! Text runs to the right or to the left. Where some character of a name runs to the left, each
label has to run in one direction and to end in characters that cannot move. -/

inductive Direction where
  | rightward
  | leftward
  | digit
  /-- A digit of the Arabic script, which belongs to text that runs to the left. -/
  | arabicDigit
  | neutral
  /-- Goes with the character before it. -/
  | attached
  deriving DecidableEq, Repr

/-- Directions of the characters outside ASCII that names can hold. What is missing is attached if
it is a mark and runs to the right otherwise. -/
def directions : String := "
  left:5be,5c0,5c3,5c6,5d0-5f4,608,60b,60d,61b-64a,66d-66f,671-6d5,6e5-6e6,6ee-6ef,6fa-710
  left:712-72f,74d-7a5,7b1-7ea,7f4-7f5,7fa,7fe-815,81a,824,828,830-858,85e-88f,8a0-8c9,fbb2-fbc2
  left:fe73,10800-1091b,10920-10a00,10a10-10a35,10a40-10ae4,10aeb-10b35,10b40-10d23,10d4a-10d4f
  left:10d6f-10d8f,10e80-10ea9,10ead-10ecf,10ed9-10ef9,10f00-10f45,10f51-10f81,10f86-10ff6
  left:1e800-1e8cf,1e922-1e943,1e94b-1ed3d arabic:660-669,66b-66c,10d30-10d39,10d40-10d49
  arabic:10e60-10e7e digit:6f0-6f9,102e1-102fb neutral:a1-d7,f7,2b9-2ba,2c2-2cf,2d2-2ed,2ef-2ff
  neutral:375,3f6,58a-58f,606-607,609-60a,60c,60e-60f,66a,6de,6e9,7f6-7f9,9f2-9f3,9fb,af1
  neutral:bf3-bfa,c78-c7e,e3f,f3a-f3d,1390-1399,1400,169b-169c,17db,17f0-180a,1940-1945
  neutral:19de-19ff,200c-20c3,2104-214d,218a-2335,237b-2394,2396-26ab,26ad-27ff,2900-2bff
  neutral:2ce5-2cea,2cf9-2cff,2e00-3004,3008-3020,3030,3037,303d-303f,30a0,30fb,31c0-31e5
  neutral:4dc0-4dff,a490-a4c6,a60d-a60f,a673,a67e-a67f,a700-a721,a788,a828-a82b,a838-a839
  neutral:a874-a877,ab6a-ab6b,fbc3-fdff,fe45-fe46,10101,10140-1018c,10190-101a0,1091f
  neutral:10b39-10b3f,10d6e,10ed0-10ed8,11052-11065,11660-1166c,11fd5-11ff1,16fe2,1cc00-1cef0
  neutral:1d1e9-1d241,1d245-1d28f,1d300-1d356,1db00-1dbff,1e2ff,1eef0-1f12f,1f16d-1f16f,1f1ad
  neutral:1f260-1fbfa"

def directionRanges : List (String × List (Nat × Nat)) := Text.Table.headedRanges directions

/-- Marks of single scripts that have a direction all the same. -/
def directedMarks : List Nat :=
  [0xCBF, 0xCC6, 0x1B3A, 0x1B3C, 0x1B42, 0x11A07, 0x11A08, 0x11C3F]

def foreignDirection (c : Char) : Direction :=
  match Text.Table.heading? directionRanges c.toNat with
  | some "left" => .leftward
  | some "arabic" => .arabicDigit
  | some "digit" => .digit
  | some _ => .neutral
  | none =>
    if isNonspacing c && !directedMarks.contains c.toNat then .attached else .rightward

def direction (c : Char) : Direction :=
  if 127 < c.toNat then foreignDirection c
  else if c.isAlpha then .rightward
  else if c.isDigit then .digit
  else .neutral

def Direction.isLeftward (d : Direction) : Bool := d == .leftward || d == .arabicDigit

/-- The label runs to the left: nothing in it runs to the left, and marks aside it ends in a
character that runs to the right or a digit. -/
def runsRight (label : List Direction) : Bool :=
  label.head? == some .rightward && label.all (!·.isLeftward) &&
    (label.reverse.dropWhile (· == .attached)).head?.any fun d => d == .rightward || d == .digit

/-- The label runs to the left: nothing in it runs to the right, marks aside it ends in a character
that runs to the left or a digit, and its digits are of one kind. -/
def runsLeft (label : List Direction) : Bool :=
  label.head? == some .leftward && label.all (· != .rightward) &&
    ((label.reverse.dropWhile (· == .attached)).head?.any fun d => d.isLeftward || d == .digit) &&
    !(label.contains .digit && label.contains .arabicDigit)

/-- The labels of a name can be read in either direction. -/
def isReadable (labels : List (List Char)) : Bool :=
  let directed := labels.map fun label => label.map direction
  !(directed.any fun label => label.any Direction.isLeftward) ||
    directed.all fun label => label.isEmpty || runsRight label || runsLeft label

end DocSearch.Domain
