import PostMarkup.Markdown.Inline.Reader

/-! # Lists

Consecutive item lines form a list. An item holds the lists that the deeper items after it form; a
list starts at an item and goes on while the items are indented at least as far as that item. A
list is numbered when its first own item is.
-/

namespace PostMarkup.Markdown

open PostMarkup.Text

structure Item where
  indent : Nat
  ordered : Bool
  content : List Char
  /-- Whether a line break follows the content. -/
  hardBreak : Bool
deriving DecidableEq, Repr

namespace Item

/-- Whether a character indents an item or separates its marker from its content. -/
def isSpacing (c : Char) : Bool := c = ' ' || c = '\t' || c = wideSpace

/-- Whether a marker at the start of a text is a number, and the text after the marker: a bullet,
or digits and one character that is neither a digit nor blank. -/
def readMarker? (text : List Char) : Option (Bool × List Char) :=
  match text.dropWhile Char.isDigit with
  | c :: rest =>
    if text.head?.any Char.isDigit then if isBlank c then none else some (true, rest)
    else if c = '*' ∨ c = '+' ∨ c = '-' then some (false, rest)
    else none
  | [] => none

/-- The item on a line: indentation, a marker, spacing, and content that starts with no blank. -/
def read? (line : List Char) : Option Item := do
  let (ordered, rest) ← readMarker? (line.dropWhile isSpacing)
  let content := rest.dropWhile isSpacing
  if rest.head?.any isSpacing && content.head?.any (!isBlank ·) then
    some ⟨(line.takeWhile isSpacing).length, ordered, content, false⟩
  else none

end Item

mutual

/-- A list with its entries. -/
inductive Outline where
  | mk (ordered : Bool) (entries : List Entry)

/-- An entry of a list: the item that starts it, unless a deeper item comes first, and the lists
inside it. -/
inductive Entry where
  | mk (item : Option Item) (inner : List Outline)

end

/-- The HTML of the own content of an entry. -/
def Item.html (item : Item) : List Char :=
  renderLine item.content ++ if item.hardBreak then "<br />".toList else []

mutual

def Outline.html : Outline → List Char
  | .mk ordered entries =>
    let name := if ordered then "ol".toList else "ul".toList
    writeElement name ('\n' :: Entry.htmlOf entries)

def Entry.htmlOf : List Entry → List Char
  | [] => []
  | entry :: rest => entry.html ++ Entry.htmlOf rest

def Entry.html : Entry → List Char
  | .mk item inner =>
    "<li>".toList ++ (item.map Item.html).getD [] ++ Outline.htmlOf inner ++ "</li>\n".toList

/-- The HTML of the lists inside an entry, each between line ends. -/
def Outline.htmlOf : List Outline → List Char
  | [] => []
  | outline :: rest => '\n' :: outline.html ++ '\n' :: Outline.htmlOf rest

end

/-- The items at the start of a list that are indented more than an item. -/
def deeper (indent : Nat) (items : List Item) : List Item :=
  items.takeWhile fun item => indent < item.indent

mutual

def outlines : List Item → List Outline
  | [] => []
  | first :: rest =>
    .mk first.ordered (entries first (rest.takeWhile fun item => first.indent ≤ item.indent)) ::
      outlines (rest.dropWhile fun item => first.indent ≤ item.indent)
termination_by items => (items.length, 0)
decreasing_by
  · have bound :=
      (List.takeWhile_sublist (l := rest) fun item => first.indent ≤ item.indent).length_le
    simp only [List.length_cons, Prod.lex_def]
    omega
  · have bound :=
      (List.dropWhile_sublist (l := rest) fun item => first.indent ≤ item.indent).length_le
    simp only [List.length_cons, Prod.lex_def]
    omega

/-- The entry that an item starts and the entries after it, where no item is indented less. -/
def entries (item : Item) (rest : List Item) : List Entry :=
  .mk (some item) (outlines (deeper item.indent rest)) ::
    match _further : rest.dropWhile fun other => item.indent < other.indent with
    | [] => []
    | next :: others => entries next others
termination_by (rest.length, 1)
decreasing_by
  · have bound :=
      (List.takeWhile_sublist (l := rest) fun other => item.indent < other.indent).length_le
    simp only [deeper, Prod.lex_def]
    omega
  · have bound :=
      (List.dropWhile_sublist (l := rest) fun other => item.indent < other.indent).length_le
    rw [_further] at bound
    simp only [List.length_cons] at bound
    simp only [Prod.lex_def]
    omega

end

/-- The list that nonempty items form: its level is their least indentation, and deeper items
before the first of that level make up an entry without an item of its own. -/
def Outline.ofItems? (items : List Item) : Option Outline :=
  (items.map Item.indent).min?.map fun level =>
    let orphans := deeper level items
    let orphaned := if orphans.isEmpty then [] else [Entry.mk none (outlines orphans)]
    match items.drop orphans.length with
    | first :: rest => .mk first.ordered (orphaned ++ entries first rest)
    | [] => .mk false orphaned

end PostMarkup.Markdown
