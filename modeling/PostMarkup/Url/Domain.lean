import PostMarkup.Percent
import PostMarkup.Unicode.Composition
import PostMarkup.Url.Domain.Character
import PostMarkup.Url.Domain.Joining
import PostMarkup.Url.Domain.Punycode
import PostMarkup.Url.Ipv4

/-! # Domain names

A host is percent-decoded and mapped to the characters of domain names. Each label between its dots
must hold no character that is forbidden in names and start with no mark, and its joiners must fit;
a label that starts with `xn--` is judged by what it encodes. All labels must follow the rule of
directions if one of them is written from right to left, and a name that ends in a number must be
an address of four bytes.
-/

namespace PostMarkup.Url

open PostMarkup.Text PostMarkup.Url.Domain

/-- Whether a character delimits the parts of an address, so that no host holds it. -/
def isDelimiter (c : Char) : Bool :=
  c = ' ' || c = '#' || c = '/' || c = ':' || c = '<' || c = '>' || c = '?' || c = '@' ||
    c = '[' || c = '\\' || c = ']' || c = '^' || c = '|' || c = '\x00' || c = '\t' || c = '\n' ||
    c = '\r'

def isForbidden (c : Char) : Bool :=
  isDelimiter c || c = '%' || c.toNat < 0x20 || c.toNat = 0x7f

namespace Domain

/-- The name that a text stands for; none if it holds a character that no name holds. -/
def mapped? (text : List Char) : Option (List Char) :=
  if text.any isUnusable then none
  else some (Unicode.composed ((text.filter (!isIgnored ·)).flatMap form))

/-- What labels start with that are written in ASCII for other characters. -/
def encodedMark : List Char := "xn--".toList

/-- Whether a label is one that is written in ASCII otherwise. -/
def isEncodable (label : List Char) : Bool :=
  label.any (fun c => 0x80 ≤ c.toNat) && label.all standsForItself &&
    Unicode.composed label == label && !startsIgnoringCase encodedMark label

/-- The label that a label of a name stands for; none if it encodes no label. -/
def plainLabel? (label : List Char) : Option (List Char) :=
  if startsIgnoringCase encodedMark label then
    if label.all fun c => c.toNat < 0x80 then
      (Punycode.decode? (lowerAscii (label.drop encodedMark.length))).filter isEncodable
    else none
  else some label

/-- Whether a character silences the vowel of the letter before it. -/
def isSilencer (c : Char) : Bool := Unicode.combiningClass c = 9

/-- Whether a label may stand in a name. -/
def isLabel (label : List Char) : Bool :=
  !label.any isForbidden && !label.head?.any isMark && joinersFit isSilencer [] label

def isName (labels : List (List Char)) : Bool :=
  let directions := labels.map (·.map Direction.of)
  labels.all isLabel &&
    (!directions.any (·.any Direction.isBackward) || directions.all followsDirections)

end Domain

def isDomain (host : List Char) : Bool :=
  match (Utf8.decode? (Percent.decodeBytes host)).bind mapped? with
  | none => false
  | some name =>
    !name.isEmpty && ((splitAt '.' name).mapM plainLabel?).any isName &&
      (!endsInNumber name || isIpv4 name)

end PostMarkup.Url
