import PostMarkup.Markdown.Inline.Basic
import PostMarkup.Text.Ascii
import PostMarkup.Unicode.Numeric
import PostMarkup.Url.Linked

/-! # Reading the parts of a line

A line is read from left to right, and at each position the first construct that applies is taken:
an escaped character, a code span, an image, a link, a bare address, a styled part, or the
character itself. The content of a styled part is read as a line of its own.
-/

namespace PostMarkup.Markdown

open PostMarkup.Text PostMarkup.Unicode

/-- A mark that opens and closes a styled part: one character or the same one twice. -/
structure Delimiter where
  marker : Char
  double : Bool
  style : Style
deriving DecidableEq, Repr

namespace Delimiter

/-- The delimiters in the order in which they are tried. -/
def all : List Delimiter :=
  [⟨'*', true, .strong⟩, ⟨'_', true, .strong⟩, ⟨'~', true, .strike⟩, ⟨'+', true, .underline⟩,
    ⟨'=', true, .highlight⟩, ⟨'*', false, .emphasis⟩, ⟨'_', false, .emphasis⟩,
    ⟨'^', false, .superscript⟩]

/-- The characters of a delimiter. -/
def written (delimiter : Delimiter) : List Char :=
  if delimiter.double then [delimiter.marker, delimiter.marker] else [delimiter.marker]

/-- Whether a delimiter opens a part at the start of a text that follows `previous`: it touches
what comes after it, a single one is not doubled, and an underscore does not continue a word. -/
def opens (delimiter : Delimiter) (previous : Option Char) (text : List Char) : Bool :=
  delimiter.written.isPrefixOf text &&
    (text.drop delimiter.written.length).head?.any
      (fun next => !isBlank next && (delimiter.double || next ≠ delimiter.marker)) &&
    !(delimiter.marker = '_' && previous.any isAlphanumeric)

/-- Whether a delimiter closes a part at the start of a text that follows `previous`: it touches
what comes before it, is not escaped or continued, and an underscore does not start a word. -/
def closes (delimiter : Delimiter) (previous : Char) (text : List Char) : Bool :=
  let next := (text.drop delimiter.written.length).head?
  delimiter.written.isPrefixOf text && !isBlank previous && previous ≠ '\\' &&
    next ≠ some delimiter.marker && (delimiter.double || previous ≠ delimiter.marker) &&
    !(delimiter.marker = '_' && next.any isAlphanumeric)

/-- The number of characters before the first place in a text that follows `previous` where a
delimiter closes. -/
def untilCloser? (delimiter : Delimiter) (previous : Char) : List Char → Option Nat
  | [] => none
  | c :: rest =>
    if delimiter.closes previous (c :: rest) then some 0
    else (delimiter.untilCloser? c rest).map (· + 1)

/-- The length of the content of a styled part, which has at least one character, where the text
follows the opening delimiter. -/
def contentLength? (delimiter : Delimiter) : List Char → Option Nat
  | [] => none
  | c :: rest => (delimiter.untilCloser? c rest).map (· + 1)

end Delimiter

def backticks (text : List Char) : Nat := (text.takeWhile (· = '\x60')).length

/-- The text before the next run of exactly `run` backticks. -/
def untilBackticks? (run : Nat) : List Char → Option (List Char)
  | [] => none
  | c :: rest =>
    if c = '\x60' then
      let found := backticks rest + 1
      if found = run then some []
      else (untilBackticks? run (rest.drop (found - 1))).map (List.replicate found '\x60' ++ ·)
    else (untilBackticks? run rest).map (c :: ·)
termination_by text => text.length
decreasing_by all_goals (simp only [List.length_cons, List.length_drop]; omega)

/-- The content of a code span: one space is dropped at either end if both ends are spaces and not
all is spaces. -/
def codeContent (body : List Char) : List Char :=
  if 2 ≤ body.length ∧ body.head? = some ' ' ∧ body.getLast? = some ' ' ∧ body.any (· ≠ ' ') then
    body.tail.dropLast
  else body

/-- The number of characters of a label before the bracket that closes it, where `depth` brackets
are open inside it; a backslash hides the character after it. -/
def labelLength? (depth : Nat) : List Char → Option Nat
  | [] => none
  | '\\' :: rest =>
    match rest with
    | [] => none
    | _ :: further => (labelLength? depth further).map (· + 2)
  | '[' :: rest => (labelLength? (depth + 1) rest).map (· + 1)
  | ']' :: rest =>
    match depth with
    | 0 => some 0
    | depth + 1 => (labelLength? depth rest).map (· + 1)
  | _ :: rest => (labelLength? depth rest).map (· + 1)

/-- A label without the backslashes that escape punctuation. -/
def plainLabel : List Char → List Char
  | [] => []
  | [c] => [c]
  | c :: next :: rest =>
    if c = '\\' ∧ isPunctuation next then next :: plainLabel rest
    else c :: plainLabel (next :: rest)

/-- A title in double quotes at the start of a text, if there is one, and the text after it and
the spaces that follow; none if the title is not closed. -/
def readTitle? (text : List Char) : Option (Option (List Char) × List Char) :=
  match text with
  | '"' :: rest =>
    (cutAt? '"' rest).map fun (title, after) => (some title, after.dropWhile (· = ' '))
  | _ => some (none, text)

/-- The target that follows an opening bracket and the text after it. -/
def readTarget? (text : List Char) : Option (Target × List Char) := do
  let length ← labelLength? 0 text
  match text.drop (length + 1) with
  | '(' :: rest =>
    let url := rest.takeWhile fun c => c ≠ ')' && !isBlank c
    if Url.isLinkable url then
      let (title, after) ← readTitle? ((rest.drop url.length).dropWhile (· = ' '))
      match after with
      | ')' :: further => some (⟨url, plainLabel (text.take length), title⟩, further)
      | _ => none
    else none
  | _ => none

/-- Whether a character at the end of a bare address belongs to the text around it. -/
def isClosingMark (c : Char) : Bool :=
  c = '.' || c = ',' || c = ':' || c = ';' || c = '!' || c = '?' || c = '*' || c = '~' ||
    c = '=' || c = '^' || c = ')'

/-- The bare address at the start of a text that follows `previous`. -/
def bareAddress? (previous : Option Char) (text : List Char) : Option (List Char) :=
  if previous.any isAlphanumeric then none
  else (Url.linkedScheme? text).bind fun scheme =>
    let rest := (text.drop scheme.length).takeWhile fun c => !isBlank c
    let address := dropEndWhile isClosingMark rest
    if address.isEmpty then none else some (text.take scheme.length ++ address)

/-- What a line holds at one position. -/
inductive Step where
  /-- A part that is read whole and takes some characters. -/
  | whole (part : Inline) (taken : Nat)
  /-- A styled part between delimiters of some width, with the length of its content. -/
  | styled (style : Style) (width length : Nat)

namespace Step

def taken : Step → Nat
  | whole _ taken => taken
  | styled _ width length => width + length + width

end Step

/-- The code span or the run of backticks at the start of a text. -/
def backtickStep (text : List Char) : Step :=
  let run := backticks text
  match untilBackticks? run (text.drop run) with
  | some body => .whole (.code (codeContent body)) (run + body.length + run)
  | none => .whole (.text (List.replicate run '\x60')) run

/-- The image or the link at the start of a text. -/
def targetStep? (text : List Char) : Option Step :=
  match text with
  | '!' :: '[' :: rest => (readTarget? rest).map fun (target, after) =>
      .whole (.image target) (text.length - after.length)
  | '[' :: rest => (readTarget? rest).map fun (target, after) =>
      .whole (.link target) (text.length - after.length)
  | _ => none

/-- The styled part at the start of a text that follows `previous`. -/
def styledStep? (previous : Option Char) (text : List Char) : Option Step :=
  Delimiter.all.findSome? fun delimiter =>
    if delimiter.opens previous text then
      let width := delimiter.written.length
      (delimiter.contentLength? (text.drop width)).map fun length =>
        .styled delimiter.style width length
    else none

/-- The first construct that applies at the start of a text that follows `previous`. -/
def step (previous : Option Char) (c : Char) (rest : List Char) : Step :=
  match c, rest with
  | '\\', next :: _ =>
    if isPunctuation next then .whole (.text [next]) 2 else .whole (.text [c]) 1
  | _, _ =>
    if c = '\x60' then backtickStep (c :: rest)
    else match targetStep? (c :: rest) with
      | some found => found
      | none =>
        match bareAddress? previous (c :: rest) with
        | some address => .whole (.text address) address.length
        | none => (styledStep? previous (c :: rest)).getD (.whole (.text [c]) 1)

def inlinesFrom (previous : Option Char) : List Char → List Inline
  | [] => []
  | c :: rest =>
    let found := step previous c rest
    let more := rest.drop (found.taken - 1)
    let last := (c :: rest.take (found.taken - 1)).getLast?
    match found with
    | .whole part _ => part :: inlinesFrom last more
    | .styled style width length =>
      .styled style (inlinesFrom none ((rest.drop (width - 1)).take length)) ::
        inlinesFrom last more
termination_by text => text.length
decreasing_by
  all_goals simp only [List.length_cons, List.length_take, List.length_drop]
  all_goals omega

def inlines (line : List Char) : List Inline := inlinesFrom none line

/-- The HTML of a line. -/
def renderLine (line : List Char) : List Char := Inline.htmlOf (inlines line)

end PostMarkup.Markdown
