import PostMarkup.Html.Table

/-! # Drawings and formulas

The content of a drawing or a formula nests by its tags alone. Some of its elements hold HTML again,
and an opening tag that belongs to HTML only ends the drawing or the formula around it.
-/

namespace PostMarkup.Html

namespace Builder

/-- Whether an element is an annotation of a formula that is written in HTML. -/
def isWrittenInHtml (builder : Builder) (element : OpenElement) : Bool :=
  (builder.forest.attributes element.number).any fun written =>
    written.name = "encoding" &&
      ["text/html", "application/xhtml+xml"].contains
        (String.ofList (Text.lowerAscii written.value))

/-- Whether a token is read by the rules of drawings and formulas. -/
def isForeign (builder : Builder) (token : Token) : Bool :=
  let current := builder.current
  let isNote := current.name = ⟨.math, "annotation-xml"⟩
  if current.name.vocabulary = .html then false
  else match token with
    | .char _ =>
      !(current.name.holdsMathText || current.name.holdsHtml ||
        (isNote && builder.isWrittenInHtml current))
    | .opening tag =>
      let entersHtml :=
        (current.name.holdsMathText && tag.name ≠ "mglyph" && tag.name ≠ "malignmark") ||
          current.name.holdsHtml ||
          (isNote && (tag.name = "svg" || builder.isWrittenInHtml current))
      !entersHtml
    | .closing _ | .comment | .skipped => true

/-- The step after a tag that ends the drawing or the formula around it. -/
def breakOut (builder : Builder) (token : Token) : Step :=
  let left := builder.popInside fun name =>
    name.vocabulary = .html || name.holdsMathText || name.holdsHtml
  left.inMode token

def openInForeign (builder : Builder) (tag : OpeningTag) : Builder :=
  let vocabulary := builder.current.name.vocabulary
  let name := if vocabulary = .svg then respell drawingNames tag.name else tag.name
  builder.openForeign vocabulary name tag

/-- Whether an opening tag belongs to HTML only. -/
def breaksOut (tag : OpeningTag) : Bool :=
  breakoutElements.contains tag.name ||
    (tag.name = "font" &&
      tag.attributes.any fun written => ["color", "face", "size"].contains written.name)

/-- The step after a closing tag in a drawing or a formula: it closes the innermost element of its
name, whatever the case of letters, but inside HTML the rules of HTML decide. -/
def closeInForeign (builder : Builder) (name : String) : Step :=
  let fits (opened : OpenElement) : Bool := opened.name.name.map Char.toLower = name
  let isHtml (opened : OpenElement) : Bool := opened.name.vocabulary = .html
  match builder.opened with
  | [] => .done builder
  | inner :: outer =>
    if fits inner then .done builder.pop
    else match outer.find? fun opened => isHtml opened || fits opened with
      | some found =>
        if isHtml found then builder.inMode (.closing name) else .done (builder.popThrough fits)
      | none => .done builder

def inForeign (builder : Builder) (token : Token) : Step :=
  match token with
  | .char c => .done (builder.insertChar (withoutNull c))
  | .opening tag =>
    if breaksOut tag then builder.breakOut token else .done (builder.openInForeign tag)
  | .closing name =>
    if name = "br" ∨ name = "p" then builder.breakOut token else builder.closeInForeign name
  | .comment | .skipped => .done builder

end Builder

end PostMarkup.Html
