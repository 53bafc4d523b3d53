import PostMarkup.Text.Ascii

/-! # Labels written in ASCII

A label with characters outside ASCII has a form in ASCII alone: its characters of ASCII, a hyphen,
and numbers that tell where each of the others is inserted, in ascending order. A number is
written in digits of base 36, lowest first, each with a threshold below which the number ends.
-/

namespace PostMarkup.Url.Domain.Punycode

open PostMarkup.Text

/-- The value of a digit: letters come before the digits of decimal numbers. -/
def digitValue? (c : Char) : Option Nat :=
  if c.isAlpha then some (c.toLower.toNat - 'a'.toNat)
  else if c.isDigit then some (c.toNat - '0'.toNat + 26)
  else none

/-- The threshold of the digit at a position, which counts in steps of 36. -/
def threshold (bias position : Nat) : Nat :=
  if position ≤ bias then 1 else if bias + 26 ≤ position then 26 else position - bias

/-- The bias that follows from what is left of a distance, halved in larger steps. -/
def settle (distance raised : Nat) : Nat :=
  if 455 < distance then settle (distance / 35) (raised + 36)
  else raised + 36 * distance / (distance + 38)
termination_by distance
decreasing_by omega

/-- The bias after a distance, when a number of characters is in place. -/
def nextBias (distance count : Nat) (first : Bool) : Nat :=
  let scaled := if first then distance / 700 else distance / 2
  settle (scaled + scaled / count) 0

/-- The number at the start of a text with its digits weighted from `weight` on, and the text after
it. -/
def readNumber? (bias : Nat) : Nat → Nat → List Char → Option (Nat × List Char)
  | _, _, [] => none
  | position, weight, c :: rest => do
    let digit ← digitValue? c
    let limit := threshold bias position
    if digit < limit then return (digit * weight, rest)
    let (further, after) ← readNumber? bias (position + 36) (weight * (36 - limit)) rest
    return (digit * weight + further, after)

/-- A number takes at least one character. -/
theorem length_of_readNumber? {bias position weight number : Nat} {text after : List Char}
    (found : readNumber? bias position weight text = some (number, after)) :
    after.length < text.length := by
  induction text generalizing position weight number after with
  | nil => simp [readNumber?] at found
  | cons c rest ih =>
    simp only [readNumber?, Option.bind_eq_bind, Option.bind_eq_some_iff] at found
    obtain ⟨digit, _, found⟩ := found
    split at found
    · simp only [Option.pure_def, Option.some.injEq, Prod.mk.injEq] at found
      simp [← found.2]
    · obtain ⟨read, further, found⟩ := Option.bind_eq_some_iff.mp found
      simp only [Option.pure_def, Option.some.injEq, Prod.mk.injEq] at found
      have shorter := ih further
      simp only [List.length_cons, ← found.2]
      omega

/-- A label with the characters that numbers insert: `code` was the last one inserted, and `place`
is the first place where it may stand again. -/
def insertAll? (bias code place : Nat) (label : List Char) : List Char → Option (List Char)
  | [] => some label
  | c :: rest =>
    match _found : readNumber? bias 36 1 (c :: rest) with
    | none => none
    | some (distance, after) =>
      let count := label.length + 1
      let next := code + (place + distance) / count
      let position := (place + distance) % count
      if next.isValidChar then
        insertAll? (nextBias distance count (place = 0)) next (position + 1)
          (label.take position ++ Char.ofNat next :: label.drop position) after
      else none
termination_by text => text.length
decreasing_by exact length_of_readNumber? _found

/-- The label that a text writes: the characters before its last hyphen with those inserted that
the numbers after the hyphen tell. -/
def decode? (text : List Char) : Option (List Char) :=
  let numbers := (text.reverse.takeWhile (· ≠ '-')).reverse
  let plain := text.take (text.length - numbers.length - 1)
  insertAll? 72 0x80 0 plain (if plain.isEmpty then text else numbers)

end PostMarkup.Url.Domain.Punycode
