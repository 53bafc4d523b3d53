import PostMarkup.Text.Ascii
import PostMarkup.Text.Lines

/-! # Addresses of sixteen bytes

Eight groups of one to four hexadecimal digits between colons, where the last two may be written
as four decimal numbers, and two colons stand once for one or more groups of zeros.
-/

namespace PostMarkup.Url

open PostMarkup.Text

def isGroup (text : List Char) : Bool :=
  !text.isEmpty && text.length ≤ 4 && text.all fun c => (hexValue? c).isSome

/-- Whether a text is a decimal number below 256 without a leading zero. -/
def isByteNumber (text : List Char) : Bool :=
  (text = ['0'] || text.head? ≠ some '0') && text.length ≤ 3 &&
    (numeral? 10 text).any (· < 256)

/-- Whether a text is four byte numbers between dots. -/
def isByteQuad (text : List Char) : Bool :=
  let numbers := splitAt '.' text
  numbers.length = 4 && numbers.all isByteNumber

/-- The number of groups that a text between double colons writes; the last of them may be four
byte numbers if `final` says so. -/
def groupCount? (final : Bool) (text : List Char) : Option Nat :=
  if text.isEmpty then some 0
  else
    let parts := splitAt ':' text
    let last := parts.getLast?.getD []
    if parts.all isGroup then some parts.length
    else if final && parts.dropLast.all isGroup && isByteQuad last then some (parts.length + 1)
    else none

def cutAtDoubleColon? : List Char → Option (List Char × List Char)
  | [] => none
  | c :: rest =>
    match c, rest with
    | ':', ':' :: after => some ([], after)
    | _, _ => (cutAtDoubleColon? rest).map fun (before, after) => (c :: before, after)

def isIpv6 (text : List Char) : Bool :=
  match cutAtDoubleColon? text with
  | none => groupCount? true text = some 8
  | some (before, after) =>
    match groupCount? false before, groupCount? true after with
    | some left, some right => left + right < 8
    | _, _ => false

end PostMarkup.Url
