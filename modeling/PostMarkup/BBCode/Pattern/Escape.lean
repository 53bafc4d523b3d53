import PostMarkup.BBCode.Pattern
import PostMarkup.Reference.Reader
import PostMarkup.Text.Ascii

/-! # Escapes in patterns

A backslash takes punctuation literally. Before a letter it denotes a control character, a character
by its number, a class of characters or an edge.
-/

namespace PostMarkup.Pattern

open PostMarkup.Text

/-- What an escape denotes. -/
inductive Escape where
  | char (c : Char)
  | set (set : CharSet)
  | edge (edge : Edge)
deriving DecidableEq, Repr

/-- Whether a backslash before a character takes it literally. -/
def isEscapable (c : Char) : Bool := c.toNat < 0x80 && !c.isAlphanum && c ≠ '<' && c ≠ '>'

def letterEscapes : List (Char × Escape) :=
  [('a', .char '\x07'), ('f', .char '\x0c'), ('t', .char '\t'), ('n', .char '\n'),
    ('r', .char '\r'), ('v', .char '\x0b'), ('d', .set (.named .digit)),
    ('D', .set (.complement (.named .digit))), ('s', .set (.named .space)),
    ('S', .set (.complement (.named .space))), ('w', .set (.named .word)),
    ('W', .set (.complement (.named .word))), ('A', .edge .textStart), ('z', .edge .textEnd),
    ('b', .edge .wordEdge), ('B', .edge .noWordEdge), ('<', .edge .wordStart),
    ('>', .edge .wordEnd)]

/-- The number of hexadecimal digits that follow a letter. -/
def digitCount? : Char → Option Nat
  | 'x' => some 2
  | 'u' => some 4
  | 'U' => some 8
  | _ => none

/-- The character with a hexadecimal number. -/
def numbered? (digits : List Char) : Option Char := (numeral? 16 digits).bind scalar?

/-- The character whose number is at the start of a text, in braces or with a fixed number of
digits, and the text after it. -/
def readNumbered? (count : Nat) (text : List Char) : Option (Char × List Char) :=
  match text with
  | '\x7b' :: rest =>
    let digits := rest.takeWhile (· ≠ '\x7d')
    match rest.drop digits.length with
    | _ :: after => (numbered? digits).map fun c => (c, after)
    | [] => none
  | _ =>
    if (text.take count).length = count then
      (numbered? (text.take count)).map fun c => (c, text.drop count)
    else none

/-- What the text after a backslash denotes, and the text after that. -/
def readEscape? : List Char → Option (Escape × List Char)
  | [] => none
  | c :: rest =>
    match digitCount? c with
    | some count => (readNumbered? count rest).map fun (found, after) => (.char found, after)
    | none =>
      if isEscapable c then some (.char c, rest)
      else (letterEscapes.find? fun entry => entry.1 = c).map fun entry => (entry.2, rest)

end PostMarkup.Pattern
