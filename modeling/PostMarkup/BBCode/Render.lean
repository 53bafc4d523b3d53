import PostMarkup.BBCode.Bracket
import PostMarkup.BBCode.Table
import PostMarkup.Tag
import PostMarkup.Text.Quoted

/-! # Replacing bracket tags

Markup is read once from left to right, and its tags are copied. A closing bracket matches the
nearest open bracket of its name that stands directly in the same element; both are then replaced.
Brackets opened in between are not replaced, but one of them in the same element that is closed
later on makes the two pairs cross, which is an error. Preformatted text and code are copied.
-/

namespace PostMarkup.BBCode

open PostMarkup.Text

inductive Error where
  /-- The pattern of a tag does not accept its parameter. -/
  | invalidParameter (tag parameter : List Char)
  /-- A pair ends inside a pair that began inside it. -/
  | crossing (tag inner : List Char)
deriving DecidableEq, Repr

namespace Error

def message : Error → List Char
  | invalidParameter tag parameter =>
    "invalid parameter ".toList ++ quoted parameter ++ " for [".toList ++ tag ++ [']']
  | crossing tag inner =>
    "[/".toList ++ tag ++ "] closes across an open [".toList ++ inner ++ [']']

end Error

/-- An opening bracket that may still be closed. -/
structure OpenBracket where
  definition : Definition
  /-- The element in which the bracket stands. -/
  element : Nat
  /-- The characters of the bracket. -/
  source : List Char
  /-- The HTML that replaces the bracket if it is closed. -/
  html : List Char
  /-- What is written between the open bracket before this one and this one. -/
  before : List Char

/-- What is known in the middle of reading markup. -/
structure State where
  /-- The elements that are open, innermost first, by their numbers. -/
  elements : List Nat
  /-- The number of the last element opened. -/
  lastElement : Nat
  /-- How many open elements hold text that is copied. -/
  copiedDepth : Nat
  /-- The brackets that may still be closed, last one first. -/
  openBrackets : List OpenBracket
  /-- What is written after the last open bracket. -/
  written : List Char

namespace State

def start : State := ⟨[], 0, 0, [], []⟩

/-- The element in which the reader stands, zero outside all elements. -/
def element (state : State) : Nat := state.elements.head?.getD 0

def copy (state : State) (text : List Char) : State :=
  { state with written := state.written ++ text }

/-- Elements that consist of one tag. -/
def voidElements : List (List Char) := ["br".toList, "hr".toList, "img".toList]

/-- Elements whose text is copied. -/
def copiedElements : List (List Char) := ["pre".toList, "code".toList]

def afterTag (state : State) (tag : Tag) : State :=
  let literal := copiedElements.contains tag.name
  let copied := state.copy tag.source
  if tag.closing then
    { copied with
      elements := state.elements.tail
      copiedDepth := if literal then state.copiedDepth - 1 else state.copiedDepth }
  else if tag.selfClosing || voidElements.contains tag.name then copied
  else
    { copied with
      elements := (state.lastElement + 1) :: state.elements
      lastElement := state.lastElement + 1
      copiedDepth := if literal then state.copiedDepth + 1 else state.copiedDepth }

/-- Open brackets as they were written, and the text after them. -/
def unopened (brackets : List OpenBracket) (text : List Char) : List Char :=
  brackets.foldl (fun after bracket => bracket.before ++ bracket.source ++ after) text

/-- Everything written, where the brackets that are open are not replaced. -/
def output (state : State) : List Char := unopened state.openBrackets state.written

/-- Whether a closing bracket of a name occurs in a text. -/
def closesIn (name text : List Char) : Bool :=
  occursIn ("[/".toList ++ name ++ [']']) (lowerAscii text)

/-- A state after a closing bracket, with the text that follows the bracket. -/
def endPair (state : State) (definition : Definition) (bracket : Bracket) (after : List Char) :
    Except Error State :=
  let here (opened : OpenBracket) : Bool := opened.element = state.element
  let inner := state.openBrackets.takeWhile fun opened =>
    !(opened.definition.name = definition.name && here opened)
  match state.openBrackets.drop inner.length with
  | [] => .ok (state.copy bracket.source)
  | opened :: others =>
    match inner.reverse.find? fun other => here other && closesIn other.definition.name after with
    | some other => .error (.crossing definition.name other.definition.name)
    | none =>
      .ok { state with
        openBrackets := others
        written := opened.before ++ opened.html ++ unopened inner state.written ++
          definition.htmlClose }

def push (state : State) (definition : Definition) (bracket : Bracket) : State :=
  let opened : OpenBracket :=
    { definition, element := state.element, source := bracket.source,
      html := definition.openWith bracket.parameter, before := state.written }
  { state with openBrackets := opened :: state.openBrackets, written := [] }

/-- A state after an opening bracket. A bracket with a parameter where none belongs, or the other
way round, is copied. -/
def beginPair (state : State) (definition : Definition) (bracket : Bracket) : Except Error State :=
  match definition.parameter, bracket.parameter with
  | none, none => .ok (state.push definition bracket)
  | some parameter, some value =>
    if parameter.pattern.accepts value then .ok (state.push definition bracket)
    else .error (.invalidParameter definition.name value)
  | _, _ => .ok (state.copy bracket.source)

def afterBracket (state : State) (table : Table) (bracket : Bracket) (after : List Char) :
    Except Error State :=
  match table.get? bracket.name with
  | none => .ok (state.copy bracket.source)
  | some definition =>
    if bracket.closing then state.endPair definition bracket after
    else state.beginPair definition bracket

end State

/-- The output for the rest of some markup. -/
def renderFrom (table : Table) (state : State) : List Char → Except Error (List Char)
  | [] => .ok state.output
  | c :: rest =>
    match Tag.read? (c :: rest) with
    | some tag => renderFrom table (state.afterTag tag) (rest.drop (tag.source.length - 1))
    | none =>
      match if state.copiedDepth = 0 then Bracket.read? (c :: rest) else none with
      | none => renderFrom table (state.copy [c]) rest
      | some bracket => do
        let after := rest.drop (bracket.source.length - 1)
        renderFrom table (← state.afterBracket table bracket after) after
termination_by text => text.length
decreasing_by all_goals (simp only [List.length_cons, List.length_drop]; omega)

/-- Markup with its bracket tags replaced. -/
def render (table : Table) (markup : List Char) : Except Error (List Char) :=
  renderFrom table .start markup

end PostMarkup.BBCode
