import PostMarkup.BBCode.Pattern.CharSet

/-! # Parameter patterns

A pattern describes the parameters that a tag accepts, always as a whole. `accepts` follows a
parameter character by character with the patterns of which one has to fit the rest: what remains
of a pattern after a character is again a list of patterns. Some patterns fit only at edges, which
depend on the characters at both sides.
-/

namespace PostMarkup

open PostMarkup.Unicode

/-- A place between two characters, or at an end of the text. -/
inductive Edge where
  | textStart
  | textEnd
  | lineStart
  | lineEnd
  /-- Where a word starts or ends. -/
  | wordEdge
  /-- Where no word starts or ends. -/
  | noWordEdge
  | wordStart
  | wordEnd
deriving DecidableEq, Repr

/-- Whether an edge lies between a character and the next one, which are missing at the ends. -/
def Edge.fits (before after : Option Char) : Edge → Bool
  | textStart => before.isNone
  | textEnd => after.isNone
  | lineStart => before.all (· = '\n')
  | lineEnd => after.all (· = '\n')
  | wordEdge => before.any isWordPart != after.any isWordPart
  | noWordEdge => before.any isWordPart == after.any isWordPart
  | wordStart => !before.any isWordPart && after.any isWordPart
  | wordEnd => before.any isWordPart && !after.any isWordPart

/-- A set of texts. -/
inductive Pattern where
  /-- No text. -/
  | never
  /-- The empty text. -/
  | nothing
  /-- The empty text at an edge. -/
  | atEdge (edge : Edge)
  /-- The texts of one character in a set. -/
  | one (set : CharSet)
  | seq (first second : Pattern)
  | alt (left right : Pattern)
  /-- Some number of texts in a row, at least `least` and at most `most` if there is a limit. -/
  | counted (inner : Pattern) (least : Nat) (most : Option Nat)
deriving DecidableEq, Repr

namespace Pattern

/-- Whether the empty text between two characters fits. -/
def fitsEmpty (before after : Option Char) : Pattern → Bool
  | never => false
  | nothing => true
  | atEdge edge => edge.fits before after
  | one _ => false
  | seq first second => first.fitsEmpty before after && second.fitsEmpty before after
  | alt left right => left.fitsEmpty before after || right.fitsEmpty before after
  | counted inner least _ => least = 0 || inner.fitsEmpty before after

/-- One pattern after another, where the empty text is absorbed. -/
def andThen : Pattern → Pattern → Pattern
  | nothing, second => second
  | first, nothing => first
  | first, second => seq first second

/-- What may follow a character that starts a fitting text. If the repeated pattern fits the empty
text in front of the character, then any number of its repetitions may be empty there. -/
def afterChar (before : Option Char) (c : Char) : Pattern → List Pattern
  | never => []
  | nothing => []
  | atEdge _ => []
  | one set => if set.holds c then [nothing] else []
  | seq first second =>
    let further := (first.afterChar before c).map fun rest => rest.andThen second
    if first.fitsEmpty before (some c) then further ++ second.afterChar before c else further
  | alt left right => left.afterChar before c ++ right.afterChar before c
  | counted inner least most =>
    if most = some 0 then []
    else
      let missing := if inner.fitsEmpty before (some c) then 0 else least - 1
      (inner.afterChar before c).map fun rest =>
        rest.andThen (counted inner missing (most.map (· - 1)))

/-- Whether one of several patterns fits the rest of a text after a character. -/
def anyAccepts (before : Option Char) (patterns : List Pattern) : List Char → Bool
  | [] => patterns.any (fitsEmpty before none)
  | c :: rest =>
    anyAccepts (some c) (patterns.flatMap (afterChar before c)).eraseDups rest

/-- Whether a text fits a pattern as a whole. -/
def accepts (pattern : Pattern) (text : List Char) : Bool := anyAccepts none [pattern] text

def times (inner : Pattern) (count : Nat) : Pattern := counted inner count (some count)

def star (inner : Pattern) : Pattern := counted inner 0 none

def oneOrMore (inner : Pattern) : Pattern := counted inner 1 none

def optional (inner : Pattern) : Pattern := counted inner 0 (some 1)

/-- A pattern with any text before and after it. -/
def somewhere (inner : Pattern) : Pattern := seq (star (one .all)) (seq inner (star (one .all)))

def inRanges (ranges : List (Char × Char)) : Pattern := one (.ofRanges ranges)

def literal (text : String) : Pattern :=
  text.toList.foldr (fun c rest => andThen (one (.single c)) rest) nothing

def anyOf : List Pattern → Pattern
  | [] => never
  | [last] => last
  | first :: next :: rest => alt first (anyOf (next :: rest))

/-- The number of bytes that a pattern takes when all its repetitions are written out. -/
def room : Pattern → Nat
  | never | nothing | atEdge _ => 32
  | one set => set.room
  | seq first second => first.room + second.room
  | alt left right => left.room + right.room + 40
  | counted inner least none => inner.room * max least 1 + 40
  | counted inner least (some most) => inner.room * most + 40 * (most - least)

end Pattern

end PostMarkup
