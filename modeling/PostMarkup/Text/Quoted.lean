import PostMarkup.Unicode.Unprintable

/-! # Quoted text in messages

A text is shown between double quotes. Quotes, backslashes and the usual control characters are
written with a backslash, and other characters without a visible form by their number.
-/

namespace PostMarkup.Text

/-- The digits of a number in small hexadecimal, without leading zeros. -/
def hexNumeral (value : Nat) : List Char := Nat.toDigits 16 value

def quoteChar (c : Char) : List Char :=
  if c = '"' then ['\\', '"']
  else if c = '\\' then ['\\', '\\']
  else if c = '\t' then ['\\', 't']
  else if c = '\r' then ['\\', 'r']
  else if c = '\n' then ['\\', 'n']
  else if c = '\x00' then ['\\', '0']
  else if Unicode.isUnprintable c then ['\\', 'u', '\x7b'] ++ hexNumeral c.toNat ++ ['\x7d']
  else [c]

def quoted (text : List Char) : List Char := '"' :: text.flatMap quoteChar ++ ['"']

end PostMarkup.Text
