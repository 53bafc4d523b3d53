import PostMarkup.Html.Attribute

/-! # Trees of HTML and their written form

Written out, text is escaped, void elements have no closing tag, and the values of attributes stand
between double quotes.
-/

namespace PostMarkup.Html

/-- A character of text, or an element with its children. -/
inductive Node where
  | char (c : Char)
  | element (name : ElementName) (attributes : List Attribute) (children : List Node)

/-- Elements whose text is written as it is. -/
def verbatimElements : List String :=
  ["style", "script", "xmp", "iframe", "noembed", "noframes", "noscript", "plaintext"]

def writeTextChar (c : Char) : List Char :=
  if c = '&' then "&amp;".toList
  else if c = '\u00a0' then "&nbsp;".toList
  else if c = '<' then "&lt;".toList
  else if c = '>' then "&gt;".toList
  else [c]

def writeValueChar (c : Char) : List Char :=
  if c = '"' then "&quot;".toList else writeTextChar c

def writeAttributes (attributes : List Attribute) : List Char :=
  attributes.flatMap fun written =>
    ' ' :: written.lead.toList ++ written.name.toList ++ '=' :: '"' ::
      written.value.flatMap writeValueChar ++ ['"']

mutual

/-- The written form of a node; `verbatim` says whether its text is written as it is. -/
def Node.write (verbatim : Bool) : Node → List Char
  | .char c => if verbatim then [c] else writeTextChar c
  | .element name attributes children =>
    let lead := '<' :: name.name.toList ++ writeAttributes attributes ++ ['>']
    let finish := '<' :: '/' :: name.name.toList ++ ['>']
    if name.isAny voidElements then lead
    else lead ++ (Node.writeAll (name.isAny verbatimElements) children ++ finish)

/-- The written form of nodes in a row. -/
def Node.writeAll (verbatim : Bool) : List Node → List Char
  | [] => []
  | node :: rest => node.write verbatim ++ Node.writeAll verbatim rest

end

end PostMarkup.Html
