import PostMarkup.Text.Ascii

/-! # Reading character references

A reference is an ampersand, a name of at most ten characters and a semicolon. The name is one of
six words, or a number sign with a decimal numeral, or a number sign, an x and a hexadecimal
numeral that denote a character. A numeral may start with one plus sign. What is read once is not
read again, and an ampersand that starts no reference stands for itself.
-/

namespace PostMarkup

open PostMarkup.Text

def namedCharacter? (name : List Char) : Option Char :=
  if name = "amp".toList then some '&'
  else if name = "lt".toList then some '<'
  else if name = "gt".toList then some '>'
  else if name = "quot".toList then some '"'
  else if name = "apos".toList then some '\''
  else if name = "nbsp".toList then some '\u00a0'
  else none

/-- The character of a code point that is a Unicode scalar value. -/
def scalar? (code : Nat) : Option Char :=
  if valid : code.isValidChar then some (Char.ofNatAux code valid) else none

/-- The value of a numeral that may start with a plus sign. -/
def signedNumeral? (base : Nat) : List Char → Option Nat
  | '+' :: digits => numeral? base digits
  | digits => numeral? base digits

def referenceName? : List Char → Option Char
  | '#' :: 'x' :: digits => (signedNumeral? 16 digits).bind scalar?
  | '#' :: 'X' :: digits => (signedNumeral? 16 digits).bind scalar?
  | '#' :: digits => (signedNumeral? 10 digits).bind scalar?
  | name => namedCharacter? name

def maxReferenceName : Nat := 10

/-- The character of the reference whose ampersand stands just before the text, and the number of
characters that its name and semicolon take. -/
def reference? (text : List Char) : Option (Char × Nat) :=
  let name := (text.take maxReferenceName).takeWhile (· ≠ ';')
  if (text.drop name.length).head? = some ';' then
    (referenceName? name).map fun c => (c, name.length + 1)
  else none

/-- A text with its references read. -/
def unescape : List Char → List Char
  | [] => []
  | c :: rest =>
    if c = '&' then
      match reference? rest with
      | some (decoded, taken) => decoded :: unescape (rest.drop taken)
      | none => '&' :: unescape rest
    else c :: unescape rest
termination_by text => text.length
decreasing_by all_goals (simp only [List.length_cons, List.length_drop]; omega)

end PostMarkup
