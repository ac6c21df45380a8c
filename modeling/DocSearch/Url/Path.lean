import DocSearch.Text.Basic
import DocSearch.Text.Percent

namespace DocSearch

/-! A path is a row of segments after a slash each, or a text without structure. Segments of dots
lead back: one dot stays in place, two dots take the segment before them away. The dots may be
percent-encoded. -/

inductive UrlPath where
  | rooted (segments : List String)
  | rootless (text : String)
  deriving DecidableEq, Repr

namespace UrlPath

/-- Line breaks and tabs are not part of a URL. -/
def isBreak (c : Char) : Bool := c == '\t' || c == '\n' || c == '\r'

def withoutBreaks (text : List Char) : List Char := text.filter (!isBreak ·)

def isOutsideAscii (c : Char) : Bool := c.toNat < 32 || 126 < c.toNat

def encodedInFragment (c : Char) : Bool :=
  isOutsideAscii c || c == ' ' || c == '\"' || c == '<' || c == '>' || c.toNat == 96

def encodedInPath (c : Char) : Bool :=
  encodedInFragment c || c == '#' || c == '?' || c == '\x7b' || c == '\x7d'

/-- The segment consists of this many dots. -/
def isDots (count : Nat) (segment : List Char) : Bool :=
  match count, segment with
  | 0, [] => true
  | n + 1, '.' :: rest => isDots n rest
  | n + 1, '%' :: '2' :: e :: rest => (e == 'e' || e == 'E') && isDots n rest
  | _, _ => false

/-- The segment names a drive: a letter and a colon, or a bar in its place. -/
def isDrive (segment : List Char) : Bool :=
  match segment with
  | [letter, mark] => letter.isAlpha && (mark == ':' || mark == '|')
  | _ => false

/-- The segment is a drive, or goes on after one with a backslash. -/
def startsWithDrive (segment : List Char) : Bool :=
  isDrive (segment.take 2) && (segment.drop 2).head?.all (· == '\\')

/-- The segments without the last one. A drive cannot be taken away. -/
def goBack : List String → List String
  | [] => []
  | last :: before => if startsWithDrive last.toList then last :: before else before

def segmentText (segment : List Char) : String :=
  String.ofList (Percent.encode encodedInPath segment)

/-- Adds a segment to those kept so far, last first. Dots at the end leave an empty segment. -/
def addSegment (before : List String) (isLast : Bool) (segment : List Char) : List String :=
  if isDots 2 segment then if isLast then "" :: goBack before else goBack before
  else if isDots 1 segment then if isLast then "" :: before else before
  else segmentText segment :: before

/-- Removes segments of dots; `before` holds the segments kept so far, last first. -/
def normalSegments (before : List String) : List (List Char) → List String
  | [] => before.reverse
  | segment :: rest => normalSegments (addSegment before rest.isEmpty segment) rest

/-- The drive at the start of a segment, written with a colon, and what follows it, if anything
does. What follows is kept apart from the drive by a line break or a tab between them. -/
def drive? (segment : List Char) : Option (String × Option (List Char)) :=
  match segment.dropWhile isBreak with
  | [] => none
  | letter :: rest =>
    let isBroken := (rest.dropWhile isBreak).tail.head?.any isBreak
    match withoutBreaks rest with
    | [mark] => if isDrive [letter, mark] then some (String.ofList [letter, ':'], none) else none
    | ':' :: after =>
      if isDrive [letter, ':'] && isBroken then some (String.ofList [letter, ':'], some after)
      else none
    | _ => none

/-- The segments of a path to a file, and whether its first segment is a drive. A drive that
something follows in its segment is a folder like others. -/
def fileSegments (before : List String) : List (List Char) → List String × Bool
  | [] => (before.reverse, false)
  | segment :: rest =>
    match before, drive? segment with
    | [], some (drive, none) => (normalSegments [drive] (rest.map withoutBreaks), true)
    | [], some (drive, some after) =>
      (normalSegments [segmentText after, drive] (rest.map withoutBreaks), false)
    | before, _ => fileSegments (addSegment before rest.isEmpty (withoutBreaks segment)) rest

def text : UrlPath → String
  | rooted segments => String.join (segments.map ("/" ++ ·))
  | rootless text => text

/-- The text starts with two slashes. -/
def startsEmpty : UrlPath → Bool
  | rooted (first :: _ :: _) => first.isEmpty
  | _ => false

end UrlPath

end DocSearch
