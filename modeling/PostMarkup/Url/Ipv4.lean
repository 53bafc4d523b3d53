import PostMarkup.Text.Ascii
import PostMarkup.Text.Lines

/-! # Hosts that end in a number

A host whose last label is a number must be an address of four bytes. A number is decimal, octal
after a zero, or hexadecimal after `0x`, and the last number fills the bytes that are left.
-/

namespace PostMarkup.Url

open PostMarkup.Text

/-- The value of a label that is a number in one of the three notations. -/
def labelNumber? (label : List Char) : Option Nat :=
  match label with
  | [] => none
  | '0' :: 'x' :: digits | '0' :: 'X' :: digits =>
    if digits.isEmpty then some 0 else numeral? 16 digits
  | '0' :: digits => if digits.isEmpty then some 0 else numeral? 8 digits
  | digits => numeral? 10 digits

/-- The labels of a host without the empty one after a final dot. -/
def labels (host : List Char) : List (List Char) :=
  let all := splitAt '.' host
  if all.getLast? = some [] then all.dropLast else all

def endsInNumber (host : List Char) : Bool :=
  match (labels host).getLast? with
  | none => false
  | some label => (!label.isEmpty && label.all Char.isDigit) || (labelNumber? label).isSome

/-- Whether numbers, the last one first, are an address of four bytes. -/
def isIpv4Numbers : List Nat → Bool
  | [] => false
  | last :: others =>
    others.length < 4 && last < Nat.pow 256 (4 - others.length) && others.all (· < 256)

def isIpv4 (host : List Char) : Bool :=
  match (labels host).mapM labelNumber? with
  | some numbers => isIpv4Numbers numbers.reverse
  | none => false

end PostMarkup.Url
