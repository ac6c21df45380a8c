import DocSearch.Domain.Composition
import DocSearch.Domain.Direction
import DocSearch.Domain.Joining
import DocSearch.Domain.Mapping
import DocSearch.Domain.Punycode

namespace DocSearch.Domain

/-! A domain name is a row of labels between dots. It is looked up in ASCII: a label with other
characters is written in Punycode after a mark. Names that are compared alike have one form. -/

/-- Marks a label that is written in Punycode. -/
def encodedMark : List Char := ['x', 'n', '-', '-']

/-- No label that is longer is encoded. -/
def longestDecoded : Nat := 1000

/-- No encoding that is longer is read. -/
def longestEncoded : Nat := 2000

/-- Characters of ASCII that would end a host or are read otherwise in one. -/
def isReserved (c : Char) : Bool :=
  c.toNat ≤ 32 || c.toNat = 127 || ['%', '#', '/', ':', '<', '>', '?', '@', '[', '\\', ']', '^',
    '|'].contains c

/-- The label, decoded if it is encoded. An encoded label has to hold a character outside ASCII and
to be in normal form. -/
def decodedLabel? (label : List Char) : Option (List Char) :=
  if encodedMark.isPrefixOf label then do
    let code := label.drop encodedMark.length
    let text ← if longestEncoded < code.length then none else Punycode.decode? code
    if text.all (·.toNat < 128) || mapped? text != some text || normalForm text != text ||
        text.contains '.' then none
    else some text
  else some label

/-- The label holds no reserved characters, does not start with a mark, and what does not show in
it makes a difference. -/
def isValidLabel (label : List Char) : Bool :=
  !label.any isReserved && !label.head?.any isMark && joinersMatter [] label

def encodedLabel? (label : List Char) : Option (List Char) :=
  if label.all (·.toNat < 128) then some label
  else if longestDecoded < label.length then none
  else some (encodedMark ++ Punycode.encode label)

/-- The form of a name that has characters outside ASCII, or labels that are encoded. -/
def foreignName? (name : List Char) : Option (List Char) := do
  let text ← mapped? name
  let labels ← (Text.pieces (· == '.') (normalForm text)).mapM decodedLabel?
  if !(labels.all isValidLabel && isReadable labels) then none
  else
    let encoded ← labels.mapM encodedLabel?
    return ['.'].intercalate encoded

def isPlainLabel (label : List Char) : Bool :=
  label.all (·.toNat < 128) && !encodedMark.isPrefixOf label

/-- The form in which a name is looked up. -/
def ascii? (name : List Char) : Option (List Char) :=
  let lower := name.map Char.toLower
  if (Text.pieces (· == '.') lower).all isPlainLabel then
    if lower.any isReserved then none else some lower
  else foreignName? name

end DocSearch.Domain
