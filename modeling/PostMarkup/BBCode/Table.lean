import PostMarkup.BBCode.Pattern
import PostMarkup.Text.Ascii
import PostMarkup.Text.Lines

/-! # Tables of bracket tags

A definition gives the HTML that replaces the opening and the closing bracket of a tag. A tag with
a parameter takes it only in the form that its pattern accepts, and the parameter fills a named
place in the opening HTML.
-/

namespace PostMarkup.BBCode

open PostMarkup.Text

structure Parameter where
  pattern : Pattern
  /-- The name of the place that the parameter fills, which is written between percent signs. -/
  token : List Char
deriving DecidableEq, Repr

structure Definition where
  name : List Char
  htmlOpen : List Char
  htmlClose : List Char
  parameter : Option Parameter
deriving DecidableEq, Repr

namespace Definition

/-- A definition under a name of small letters. -/
def make (name htmlOpen htmlClose : List Char) (parameter : Option Parameter) : Definition :=
  ⟨lowerAscii name, htmlOpen, htmlClose, parameter⟩

/-- The HTML of an opening bracket with the given parameter. -/
def openWith (definition : Definition) (value : Option (List Char)) : List Char :=
  match definition.parameter, value with
  | some parameter, some value =>
    replaceAll ('%' :: parameter.token ++ ['%']) value definition.htmlOpen
  | _, _ => definition.htmlOpen

end Definition

/-- The definitions of tags by their names, the last one made first. -/
structure Table where
  definitions : List Definition
deriving DecidableEq, Repr

namespace Table

def empty : Table := ⟨[]⟩

/-- A table with a further definition, which replaces one of the same name. -/
def insert (table : Table) (definition : Definition) : Table :=
  ⟨definition :: table.definitions.filter fun other => other.name ≠ definition.name⟩

def get? (table : Table) (name : List Char) : Option Definition :=
  table.definitions.find? fun definition => definition.name = name

def letter : Pattern := .inRanges [('a', 'z'), ('A', 'Z')]

def digit : Pattern := .inRanges [('0', '9')]

def hexDigit : Pattern := .inRanges [('0', '9'), ('a', 'f'), ('A', 'F')]

/-- The number of digits in a color without its number sign. -/
def colorLength : Nat := 6

/-- The tags of statuses and biographies. -/
def builtin : Table :=
  let plain (name htmlOpen htmlClose : String) : Definition :=
    .make name.toList htmlOpen.toList htmlClose.toList none
  let withParameter (name htmlOpen token : String) (pattern : Pattern) : Definition :=
    .make name.toList htmlOpen.toList "</span>".toList (some ⟨pattern, token.toList⟩)
  let numberSign : Pattern := .literal "#"
  ⟨[plain "b" ("<span style=\"font-family: 'kozuka-gothic-pro', sans-serif; " ++
        "font-weight: 900;\">") "</span>",
    plain "i" ("<span style=\"font-family: 'kozuka-gothic-pro', sans-serif; " ++
        "font-style: italic; -moz-font-feature-settings: 'ital'; " ++
        "-webkit-font-feature-settings: 'ital'; font-feature-settings: 'ital';\">") "</span>",
    plain "u" "<u>" "</u>",
    plain "s" "<s>" "</s>",
    plain "code" "<code>" "</code>",
    plain "quote" "<q>" "</q>",
    withParameter "color" "<span style=\"color: %color%;\">" "color"
      (.anyOf [letter.oneOrMore, numberSign.seq (hexDigit.times 3),
        numberSign.seq (hexDigit.times colorLength)]),
    withParameter "size" "<span style=\"font-size: %size%px;\">" "size"
      (.seq digit digit.optional),
    plain "spin" "<span class=\"fa fa-spin\">" "</span>",
    plain "pulse" "<span class=\"bbcode-pulse-loading\">" "</span>",
    withParameter "flip" "<span class=\"fa fa-flip-%direction%\">" "direction"
      (.anyOf [.literal "horizontal", .literal "vertical"]),
    withParameter "large" "<span class=\"fa fa-%size%\">" "size"
      (.anyOf [.literal "2x", .literal "3x", .literal "4x", .literal "5x"]),
    withParameter "colorhex" "<span style=\"color: #%colorcode%\">" "colorcode"
      (hexDigit.times colorLength)]⟩

end Table

end PostMarkup.BBCode
