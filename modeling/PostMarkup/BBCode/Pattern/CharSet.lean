import PostMarkup.Text.Blank
import PostMarkup.Unicode.CaseFamily
import PostMarkup.Unicode.Word

/-! # Sets of characters

Sets are built from ranges and named classes by the operations on sets. A set may also be closed
under letter case: then it holds whole families of characters that differ in case only.
-/

namespace PostMarkup

open PostMarkup.Unicode

inductive CharClass where
  | digit
  | space
  | word
deriving DecidableEq, Repr

def CharClass.holds : CharClass → Char → Bool
  | digit => isDecimalDigit
  | space => Text.isBlank
  | word => isWordPart

inductive CharSet where
  | empty
  /-- The characters from the first to the last one. -/
  | range (first last : Char)
  | named (cls : CharClass)
  | complement (inner : CharSet)
  | union (left right : CharSet)
  | intersection (left right : CharSet)
  | difference (left right : CharSet)
  | symmetricDifference (left right : CharSet)
  /-- The characters of which some variant in letter case is in a set. -/
  | anyCase (inner : CharSet)
deriving DecidableEq, Repr

namespace CharSet

def holds : CharSet → Char → Bool
  | empty, _ => false
  | range first last, c => first ≤ c && c ≤ last
  | named cls, c => cls.holds c
  | complement inner, c => !inner.holds c
  | union left right, c => left.holds c || right.holds c
  | intersection left right, c => left.holds c && right.holds c
  | difference left right, c => left.holds c && !right.holds c
  | symmetricDifference left right, c => left.holds c != right.holds c
  | anyCase inner, c => (caseFamily c).any inner.holds

def single (c : Char) : CharSet := range c c

def ofRanges : List (Char × Char) → CharSet
  | [] => empty
  | [(first, last)] => range first last
  | (first, last) :: rest => union (range first last) (ofRanges rest)

def all : CharSet := complement empty

/-- Whether no character outside ASCII can be in a set, as far as its form tells. -/
def isAscii : CharSet → Bool
  | empty => true
  | range _ last => last.toNat < 0x80
  | named _ => false
  | complement _ => false
  | union left right | symmetricDifference left right => left.isAscii && right.isAscii
  | intersection left right => left.isAscii || right.isAscii
  | difference left _ => left.isAscii
  | anyCase inner => inner.isAscii

/-- The number of ranges that a set is built from, counted generously. -/
def rangeCount : CharSet → Nat
  | empty => 0
  | range _ _ => 1
  | named .digit => 72
  | named .space => 10
  | named .word => 800
  | complement inner => inner.rangeCount + 1
  | union left right | intersection left right | difference left right
  | symmetricDifference left right => left.rangeCount + right.rangeCount
  | anyCase inner => 2 * inner.rangeCount

/-- The number of bytes that a set takes in a machine that reads bytes. -/
def room : CharSet → Nat
  | range first last =>
    if first = last then 32 * first.utf8Size else if last.toNat < 0x80 then 72 else 416
  | set => if set.isAscii then 64 + 8 * set.rangeCount else 400 + 56 * set.rangeCount

/-- A set without the distinction of letter case, if `ignored` says so. -/
def ignoringCase (ignored : Bool) (set : CharSet) : CharSet := if ignored then anyCase set else set

def negatedIf (negated : Bool) (set : CharSet) : CharSet :=
  if negated then complement set else set

end CharSet

end PostMarkup
