import PostMarkup.Html.Builder

/-! # Formatting elements

Formatting elements may be closed in any order. One that is closed only in passing is opened again
before further content. When a formatting element is closed around an open block, then the block
moves out of it: each element between the two is copied, and the content of the block is formatted
by a copy of its own.
-/

namespace PostMarkup.Html

namespace Builder

def isOpen (builder : Builder) (entry : Formatting) : Bool :=
  builder.opened.any fun opened => opened.number = entry.number

/-- A tree with formatting elements opened again, first one first, and their new entries, last one
first. -/
def reopen (builder : Builder) : List Formatting → Builder × List (Option Formatting)
  | [] => (builder, [])
  | entry :: rest =>
    let pushed := builder.pushHtml entry.name entry.attributes
    let (reopened, entries) := pushed.reopen rest
    (reopened, entries ++ [some { entry with number := pushed.current.number }])

/-- A tree whose formatting elements are open as far as they were closed in passing. -/
def reconstruct (builder : Builder) : Builder :=
  let missing := (builder.formatting.takeWhile fun entry =>
    entry.any fun found => !builder.isOpen found).filterMap id
  let (reopened, entries) := builder.reopen missing.reverse
  { reopened with formatting := entries ++ builder.formatting.drop missing.length }

/-- The formatting elements since the last enclosed part began, last one first. -/
def activeFormatting (builder : Builder) : List Formatting :=
  (builder.formatting.takeWhile Option.isSome).filterMap id

def forget (builder : Builder) (number : Nat) : Builder :=
  { builder with
    formatting := builder.formatting.filter fun entry =>
      !(entry.any fun found => found.number = number) }

/-- A tree in which a part begins that encloses the formatting inside it. -/
def enclose (builder : Builder) : Builder :=
  { builder with formatting := none :: builder.formatting }

def leaveEnclosed (builder : Builder) : Builder :=
  { builder with formatting := (builder.formatting.dropWhile Option.isSome).tail }

/-- Whether a formatting element has a name and attributes, in any order. -/
def sameFormatting (name : String) (attributes : List Attribute) (entry : Formatting) : Bool :=
  entry.name = name && entry.attributes.length = attributes.length &&
    entry.attributes.all attributes.contains

def maxEqual : Nat := 3

/-- A tree with a further open formatting element; if there are enough equal ones, then the first
of them is forgotten. -/
def openFormatting (builder : Builder) (name : String) (attributes : List Attribute) : Builder :=
  let equal := builder.activeFormatting.filter (sameFormatting name attributes)
  let spared := match (equal.drop (maxEqual - 1)).getLast? with
    | some first => builder.forget first.number
    | none => builder
  let pushed := spared.pushHtml name attributes
  let entry : Formatting := ⟨pushed.current.number, name, attributes⟩
  { pushed with formatting := some entry :: pushed.formatting }

/-- A list of formatting elements in which one has another number. -/
def renumber (formatting : List (Option Formatting)) (number other : Nat) :
    List (Option Formatting) :=
  formatting.map fun entry => entry.map fun found =>
    if found.number = number then { found with number := other } else found

/-- What is left to do while a block moves out of a formatting element. -/
structure Moving where
  builder : Builder
  /-- The node that moves on, at first the block. -/
  last : Nat
  /-- The first copy of an element around the block. -/
  firstCopy : Option Nat
  /-- The elements around the block that stay open, outermost first. -/
  kept : List OpenElement

/-- The number of elements around a block that are copied at most. -/
def maxCopies : Nat := 3

/-- A block moved into copies of the elements around it, innermost first; elements that are no
formatting, and all beyond the limit, are closed instead. -/
def moveOut (moving : Moving) (copies : Nat) : List OpenElement → Moving
  | [] => moving
  | element :: outer =>
    let builder := moving.builder
    let entry := (builder.formatting.filterMap id).find? fun found => found.number = element.number
    match copies, entry with
    | 0, _ => moveOut { moving with builder := builder.forget element.number } 0 outer
    | copies + 1, none => moveOut moving copies outer
    | copies + 1, some entry =>
      let (forest, number) := builder.forest.add (.element element.name entry.attributes)
      let moved : Moving :=
        { builder :=
            { builder with
              forest := forest.append number moving.last
              formatting := renumber builder.formatting element.number number }
          last := number
          firstCopy := moving.firstCopy.or (some number)
          kept := { element with number } :: moving.kept }
      moveOut moved copies outer

def insertAfter (entry : Formatting) (number : Nat) :
    List (Option Formatting) → List (Option Formatting)
  | [] => []
  | found :: rest =>
    if found.any fun other => other.number = number then some entry :: found :: rest
    else found :: insertAfter entry number rest

/-- A tree in which a formatting element is closed around a block, which moves out of it: `inner`
are the elements inside the block and `between` the ones around it, all innermost first. -/
def closeAround (builder : Builder) (entry : Formatting) (inner between : List OpenElement)
    (block : OpenElement) (outer : List OpenElement) : Builder :=
  let moved := moveOut ⟨builder, block.number, none, []⟩ maxCopies between
  let detached := { moved.builder with forest := moved.builder.forest.detach moved.last }
  let placed := detached.insertInto (outer.head?.getD rootElement) moved.last
  let (forest, number) := placed.forest.add (.element ⟨.html, entry.name⟩ entry.attributes)
  let copy : Formatting := { entry with number }
  let filled := (forest.moveChildren block.number number).append block.number number
  let formatting := match moved.firstCopy with
    | none => renumber placed.formatting entry.number number
    | some first =>
      (insertAfter copy first placed.formatting).filter fun found =>
        !(found.any fun other => other.number = entry.number)
  { placed with
    forest := filled
    formatting
    opened := inner ++ ⟨number, ⟨.html, entry.name⟩⟩ :: block :: moved.kept.reverse ++ outer }

/-- A tree after one attempt to close a formatting element of a name, and whether there may be more
to do. -/
def closeFormattingOnce (builder : Builder) (name : String) : Builder × Bool :=
  match builder.activeFormatting.find? fun entry => entry.name = name with
  | none => (builder.closeOther name, false)
  | some entry =>
    let isEntry (opened : OpenElement) : Bool := opened.number = entry.number
    if !builder.isOpen entry then (builder.forget entry.number, false)
    else if !builder.inScope .element isEntry then (builder, false)
    else
      let inside := builder.opened.takeWhile fun opened => !isEntry opened
      let outer := builder.opened.drop (inside.length + 1)
      let isBlock (opened : OpenElement) : Bool := opened.name.isAny specialElements
      let between := (inside.reverse.takeWhile fun opened => !isBlock opened).reverse
      match (inside.take (inside.length - between.length)).reverse with
      | block :: inner =>
        (builder.closeAround entry inner.reverse between block outer, true)
      | [] => ({ builder with opened := outer }.forget entry.number, false)

/-- A tree after several attempts to close a formatting element. -/
def closeFormattingTimes (builder : Builder) (name : String) : Nat → Builder
  | 0 => builder
  | times + 1 =>
    let (closed, more) := builder.closeFormattingOnce name
    if more then closed.closeFormattingTimes name times else closed

/-- How often a closing tag tries to close its formatting element. -/
def maxAttempts : Nat := 8

def closeFormatting (builder : Builder) (name : String) : Builder :=
  let listed := builder.formatting.any fun entry => entry.any fun found =>
    found.number = builder.current.number
  if builder.current.name.isNamed name && !listed then builder.pop
  else builder.closeFormattingTimes name maxAttempts

/-- A tree before a link is opened: a link that is open already ends. -/
def closeLink (builder : Builder) : Builder :=
  match builder.activeFormatting.find? fun entry => entry.name = "a" with
  | some entry =>
    let closed := (builder.closeFormatting "a").forget entry.number
    { closed with opened := closed.opened.filter fun opened => opened.number ≠ entry.number }
  | none => builder

end Builder

end PostMarkup.Html
