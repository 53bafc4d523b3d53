import PostMarkup.Html.Forest
import PostMarkup.Html.Token

/-! # Open elements and the place for further nodes

A tree is built at the innermost open element. Inside a table, what does not belong there is put in
front of the table instead.
-/

namespace PostMarkup.Html

structure OpenElement where
  number : Nat
  name : ElementName
deriving DecidableEq, Repr

/-- A formatting element that is opened again where it is missing. -/
structure Formatting where
  number : Nat
  name : String
  attributes : List Attribute
deriving DecidableEq, Repr

/-- What the rules for the next token depend on. -/
inductive Mode where
  | body
  /-- In the text of an element without markup. -/
  | text
  | table
  /-- In text that stands directly in a table. -/
  | tableText
  | caption
  | columns
  | rows
  | row
  | cell
  | template
deriving DecidableEq, Repr

/-- A tree in the making. -/
structure Builder where
  forest : Forest
  /-- The open elements inside the root, innermost first. -/
  opened : List OpenElement
  /-- The formatting elements, last one first; none marks the start of an enclosed part. -/
  formatting : List (Option Formatting)
  mode : Mode
  /-- The mode to go back to after text. -/
  outerMode : Mode
  /-- The modes of the open templates, innermost first. -/
  templateModes : List Mode
  /-- The text that stands directly in a table, last character first. -/
  tableText : List Char
  /-- The form that is open. -/
  form : Option Nat
  /-- Whether nodes are put in front of a table rather than into it. -/
  fosters : Bool
  /-- Whether a line feed that comes next is dropped. -/
  dropsLineFeed : Bool
  /-- How the content of the element that was opened last is read if it is text. -/
  awaits : Option (RawContent × String)

inductive Place where
  | inside (parent : Nat)
  | before (sibling : Nat)
deriving DecidableEq, Repr

namespace Builder

def start : Builder :=
  { forest := .start, opened := [], formatting := [], mode := .body, outerMode := .body,
    templateModes := [], tableText := [], form := none, fosters := false, dropsLineFeed := false,
    awaits := none }

/-- The root as an open element. -/
def rootElement : OpenElement := ⟨Forest.root, rootName⟩

def current (builder : Builder) : OpenElement := builder.opened.head?.getD rootElement

/-- The place in front of the innermost table, inside the element around it, or in the innermost
template. -/
def fosterPlace (forest : Forest) : List OpenElement → Place
  | [] => .inside Forest.root
  | inner :: outer =>
    if inner.name.isNamed "template" then .inside inner.number
    else if inner.name.isNamed "table" then
      if (forest.parent? inner.number).isSome then .before inner.number
      else .inside (outer.head?.getD rootElement).number
    else fosterPlace forest outer

/-- The place for a node that belongs into an open element. -/
def place (builder : Builder) (target : OpenElement) : Place :=
  if builder.fosters && target.name.isAny tableParts then fosterPlace builder.forest builder.opened
  else .inside target.number

/-- A tree with a node at the place for nodes that belong into an open element. -/
def insertInto (builder : Builder) (target : OpenElement) (number : Nat) : Builder :=
  let changed := match builder.place target with
    | .inside parent => builder.forest.append parent number
    | .before sibling => builder.forest.insertBefore sibling number
  { builder with forest := changed }

def insertChar (builder : Builder) (c : Char) : Builder :=
  let (forest, number) := builder.forest.add (.char c)
  { builder with forest }.insertInto builder.current number

/-- A tree with a further element that is not open, and the number of the element. -/
def insertElement (builder : Builder) (name : ElementName) (attributes : List Attribute) :
    Builder × Nat :=
  let (forest, number) := builder.forest.add (.element name attributes)
  ({ builder with forest }.insertInto builder.current number, number)

def push (builder : Builder) (name : ElementName) (attributes : List Attribute) : Builder :=
  let (inserted, number) := builder.insertElement name attributes
  { inserted with opened := ⟨number, name⟩ :: inserted.opened }

def pushHtml (builder : Builder) (name : String) (attributes : List Attribute) : Builder :=
  builder.push ⟨.html, name⟩ attributes

def insertVoid (builder : Builder) (name : String) (attributes : List Attribute) : Builder :=
  (builder.insertElement ⟨.html, name⟩ attributes).1

def pop (builder : Builder) : Builder := { builder with opened := builder.opened.tail }

/-- A tree whose elements up to and including the first one that fits are closed. -/
def popThrough (builder : Builder) (fits : OpenElement → Bool) : Builder :=
  { builder with opened := (builder.opened.dropWhile fun opened => !fits opened).tail }

/-- A tree whose elements inside the first one that fits are closed. -/
def popInside (builder : Builder) (fits : ElementName → Bool) : Builder :=
  { builder with opened := builder.opened.dropWhile fun opened => !fits opened.name }

def popNamed (builder : Builder) (name : String) : Builder :=
  builder.popThrough fun opened => opened.name.isNamed name

/-- Whether an element that fits is open and not hidden. -/
def inScope (builder : Builder) (scope : Scope) (fits : OpenElement → Bool) : Bool :=
  (builder.opened.find? fun opened => fits opened || scope.endsAt opened.name).any fits

/-- Whether an element of a name is open and not hidden. -/
def hasOpen (builder : Builder) (scope : Scope) (name : String) : Bool :=
  builder.inScope scope fun opened => opened.name.isNamed name

def isInside (builder : Builder) (name : String) : Bool :=
  builder.opened.any fun opened => opened.name.isNamed name

def closeWhile (builder : Builder) (names : List String) : Builder :=
  builder.popInside fun name => !name.isAny names

/-- A tree whose innermost elements without a needed closing tag are closed, except one name. -/
def closeImplied (builder : Builder) (except : String) : Builder :=
  builder.closeWhile (impliedElements.filter (· ≠ except))

/-- A tree in which the innermost element of a name is closed, after what needs no closing tag. -/
def closeNamed (builder : Builder) (name : String) : Builder :=
  (builder.closeImplied name).popNamed name

/-- A tree in which no paragraph is open that further content would be part of. -/
def closeParagraph (builder : Builder) : Builder :=
  if builder.hasOpen .button "p" then builder.closeNamed "p" else builder

/-- A tree in which an element is closed together with what is open inside it, unless it is
hidden. -/
def closeInScope (builder : Builder) (scope : Scope) (name : String) : Builder :=
  if builder.hasOpen scope name then (builder.closeImplied "").popNamed name else builder

/-- A tree after a closing tag whose element is closed unless a special one is open inside it. -/
def closeOther (builder : Builder) (name : String) : Builder :=
  match builder.opened.find? fun opened =>
      opened.name.isNamed name || opened.name.isAny specialElements with
  | some found => if found.name.isNamed name then builder.closeNamed name else builder
  | none => builder

/-- A tree that goes on with an element whose content is text. -/
def pushRaw (builder : Builder) (raw : RawContent) (tag : OpeningTag) : Builder :=
  let pushed := builder.pushHtml tag.name tag.attributes
  { pushed with mode := .text, outerMode := builder.mode, awaits := some (raw, tag.name) }

end Builder

end PostMarkup.Html
