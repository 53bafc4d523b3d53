/-! # Classes of ASCII characters

Letters, digits and letter case of ASCII are the core library's `Char.isAlpha`, `Char.isDigit`
and `Char.toLower`.
-/

namespace PostMarkup.Text

def isGraphic (c : Char) : Bool := 0x21 ≤ c.toNat && c.toNat ≤ 0x7e

/-- Whether a character is punctuation of ASCII: visible and no letter or digit. -/
def isPunctuation (c : Char) : Bool := isGraphic c && !c.isAlphanum

/-- A text with the capitals of ASCII made small. -/
def lowerAscii (text : List Char) : List Char := text.map Char.toLower

/-- Whether two texts are equal when the capitals of ASCII are made small. -/
def sameIgnoringCase (left right : List Char) : Bool := lowerAscii left == lowerAscii right

/-- Whether the text starts with a lowercase word, ignoring the case of ASCII. -/
def startsIgnoringCase (word text : List Char) : Bool :=
  lowerAscii (text.take word.length) == word

theorem startsIgnoringCase_iff {word text : List Char} :
    startsIgnoringCase word text = true ↔ word <+: lowerAscii text := by
  rw [List.prefix_iff_eq_take, startsIgnoringCase, lowerAscii, List.map_take, beq_iff_eq]
  exact eq_comm

/-- The word with which a text starts is the start of the text in small letters. -/
theorem lowerAscii_take {word text : List Char} (starts : startsIgnoringCase word text = true) :
    lowerAscii (text.take word.length) = word := eq_of_beq starts

/-- Only letters change when the capitals of ASCII are made small. -/
theorem toLower_of_not_isAlphanum {c : Char} (other : c.isAlphanum = false) : c.toLower = c := by
  have low : ¬('A'.val ≤ c.val ∧ c.val ≤ 'Z'.val) := by
    intro upper
    have capital : c.isUpper = true := decide_eq_true upper
    have word : c.isAlphanum = true := Bool.or_eq_true_iff.mpr (.inl (Bool.or_eq_true_iff.mpr (.inl capital)))
    exact Bool.false_ne_true (other.symm.trans word)
  exact dif_neg low

/-- The value of a hexadecimal digit in either case. -/
def hexValue? (c : Char) : Option Nat :=
  if c.isDigit then some (c.toNat - '0'.toNat)
  else if 'a' ≤ c && c ≤ 'f' then some (c.toNat - 'a'.toNat + 10)
  else if 'A' ≤ c && c ≤ 'F' then some (c.toNat - 'A'.toNat + 10)
  else none

/-- The value of a nonempty numeral of a base up to sixteen; none if another character occurs. -/
def numeral? (base : Nat) (digits : List Char) : Option Nat :=
  if digits.isEmpty then none
  else digits.foldlM (fun value c =>
    (hexValue? c).bind fun digit => if digit < base then some (value * base + digit) else none) 0

end PostMarkup.Text
