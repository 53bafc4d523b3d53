/-! # Blank characters and trimming

A character is blank when it has the Unicode property `White_Space`. The zero width space and the
byte order mark are not blank.
-/

namespace PostMarkup.Text

def isBlank (c : Char) : Bool :=
  c = ' ' || (0x09 ≤ c.toNat && c.toNat ≤ 0x0d) || c.toNat = 0x85 || c.toNat = 0xa0 ||
    c.toNat = 0x1680 || (0x2000 ≤ c.toNat && c.toNat ≤ 0x200a) || c.toNat = 0x2028 ||
    c.toNat = 0x2029 || c.toNat = 0x202f || c.toNat = 0x205f || c.toNat = 0x3000

/-- The ideographic space, which counts as indentation and as a hard break. -/
def wideSpace : Char := '\u3000'

def isBlankLine (text : List Char) : Bool := text.all isBlank

def isSpaceOrTab (c : Char) : Bool := c = ' ' || c = '\t'

/-- A list without the elements at its end that satisfy the predicate. -/
def dropEndWhile {α : Type} (drop : α → Bool) (items : List α) : List α :=
  (items.reverse.dropWhile drop).reverse

def dropBothWhile {α : Type} (drop : α → Bool) (items : List α) : List α :=
  dropEndWhile drop (items.dropWhile drop)

def trimEnd (text : List Char) : List Char := dropEndWhile isBlank text

def trim (text : List Char) : List Char := dropBothWhile isBlank text

end PostMarkup.Text
