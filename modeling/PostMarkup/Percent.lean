import PostMarkup.Text.Ascii
import PostMarkup.Text.Utf8

/-! # Percent encoding

Unreserved characters stand for themselves and every other byte of a text is written as a percent
sign and two capital hexadecimal digits. A percent sign that two hexadecimal digits do not follow
is read as itself.
-/

namespace PostMarkup.Percent

open PostMarkup.Text

def isUnreserved (c : Char) : Bool :=
  c.isAlphanum || c = '-' || c = '_' || c = '.' || c = '~'

def hexDigit (value : Nat) : Char :=
  if value < 10 then Char.ofNat ('0'.toNat + value) else Char.ofNat ('A'.toNat + (value - 10))

def encodeByte (byte : UInt8) : List Char :=
  if isUnreserved (Char.ofNat byte.toNat) && byte.toNat < 0x80 then [Char.ofNat byte.toNat]
  else ['%', hexDigit (byte.toNat / 16), hexDigit (byte.toNat % 16)]

/-- The written form of a text. -/
def encode (text : List Char) : List Char := (Utf8.encode text).flatMap encodeByte

/-- The bytes that a written form stands for. -/
def decodeBytes : List Char → List UInt8
  | [] => []
  | '%' :: high :: low :: rest =>
    match hexValue? high, hexValue? low with
    | some upper, some lower => UInt8.ofNat (upper * 16 + lower) :: decodeBytes rest
    | _, _ => Utf8.encode ['%'] ++ decodeBytes (high :: low :: rest)
  | c :: rest => String.utf8EncodeChar c ++ decodeBytes rest

/-- The text that a written form stands for. -/
def decode (written : List Char) : List Char := Utf8.decodeLossy (decodeBytes written)

end PostMarkup.Percent
