import PostMarkup.Html.Formatting

/-! # Content outside tables

Most elements nest as they are written. Paragraphs, headings, entries of lists and options end where
the next one begins, formatting is opened again around further content, and a closing tag without
its element is dropped, except that one of a paragraph stands for an empty paragraph.
-/

namespace PostMarkup.Html

/-- The mode in the content of an element. -/
def modeInside? (templateModes : List Mode) (element : ElementName) : Option Mode :=
  if element.isAny ["td", "th"] then some .cell
  else if element.isNamed "tr" then some .row
  else if element.isAny ["tbody", "thead", "tfoot"] then some .rows
  else if element.isNamed "caption" then some .caption
  else if element.isNamed "colgroup" then some .columns
  else if element.isNamed "table" then some .table
  else if element.isNamed "template" then templateModes.head?
  else none

namespace Builder

/-- A tree in the mode of the innermost element that has one. -/
def resetMode (builder : Builder) : Builder :=
  { builder with
    mode := (builder.opened.findSome? fun opened =>
      modeInside? builder.templateModes opened.name).getD .body }

def openTemplate (builder : Builder) (attributes : List Attribute) : Builder :=
  let pushed := (builder.pushHtml "template" attributes).enclose
  { pushed with mode := .template, templateModes := .template :: pushed.templateModes }

def closeTemplate (builder : Builder) : Builder :=
  if builder.isInside "template" then
    let closed := ((builder.closeWhile impliedInTemplates).popNamed "template").leaveEnclosed
    { closed with templateModes := closed.templateModes.tail }.resetMode
  else builder

/-- A tree after an opening tag of what belongs into the head of a document, none if the tag is none
of these. -/
def openMetadata? (builder : Builder) (tag : OpeningTag) : Option Builder :=
  if ["base", "basefont", "bgsound", "link", "meta"].contains tag.name then
    some (builder.insertVoid tag.name tag.attributes)
  else if tag.name = "title" then some (builder.pushRaw .withReferences tag)
  else if tag.name = "style" ∨ tag.name = "noframes" then some (builder.pushRaw .verbatim tag)
  else if tag.name = "script" then some (builder.pushRaw .script tag)
  else if tag.name = "template" then some (builder.openTemplate tag.attributes)
  else none

/-- A tree in which an entry of a list is closed before another one begins; the search ends at a
special element other than a simple container. -/
def closeEntry (builder : Builder) (names : List String) : Builder :=
  let found := builder.opened.find? fun opened =>
    opened.name.isAny names ||
      (opened.name.isAny specialElements && !opened.name.isAny simpleContainers)
  match found with
  | some entry =>
    if entry.name.isAny names then builder.closeNamed entry.name.name else builder
  | none => builder

/-- A tree after the opening tag of a form; a form in a form is dropped. -/
def openForm (builder : Builder) (tag : OpeningTag) : Builder :=
  let isFree := builder.isInside "template"
  if builder.form.isSome && !isFree then builder
  else
    let pushed := builder.closeParagraph.pushHtml tag.name tag.attributes
    if isFree then pushed else { pushed with form := some pushed.current.number }

/-- A tree after the closing tag of a form, which closes nothing else. -/
def closeForm (builder : Builder) : Builder :=
  if builder.isInside "template" then builder.closeInScope .element "form"
  else
    let left := { builder with form := none }
    match builder.form with
    | some number =>
      if left.inScope .element fun opened => opened.number = number then
        let closed := left.closeImplied ""
        { closed with opened := closed.opened.filter fun opened => opened.number ≠ number }
      else left
    | none => builder

/-- A tree after an opening tag of a block, none if the tag is none of a block. -/
def openBlock? (builder : Builder) (tag : OpeningTag) : Option Builder :=
  let pushAfter (prepared : Builder) := prepared.pushHtml tag.name tag.attributes
  if blockElements.contains tag.name then some (pushAfter builder.closeParagraph)
  else if headings.contains tag.name then
    let closed := builder.closeParagraph
    some (pushAfter (if closed.current.name.isAny headings then closed.pop else closed))
  else if tag.name = "pre" ∨ tag.name = "listing" then
    some { pushAfter builder.closeParagraph with dropsLineFeed := true }
  else if tag.name = "form" then some (builder.openForm tag)
  else if tag.name = "li" then some (pushAfter (builder.closeEntry ["li"]).closeParagraph)
  else if tag.name = "dd" ∨ tag.name = "dt" then
    some (pushAfter (builder.closeEntry ["dd", "dt"]).closeParagraph)
  else if tag.name = "plaintext" then
    some { pushAfter builder.closeParagraph with awaits := some (.unlimited, tag.name) }
  else if tag.name = "table" then
    some { pushAfter builder.closeParagraph with mode := .table }
  else none

/-- A tree before an option or a group of options begins: in a list of options it ends what needs no
closing tag, except one name, and elsewhere an option that directly holds it. -/
def closeOption (builder : Builder) (except : String) : Builder :=
  if builder.hasOpen .element "select" then builder.closeImplied except
  else if builder.current.name.isNamed "option" then builder.pop
  else builder

/-- A tree after an opening tag of a control or of something to choose from, none if the tag is none
of these; a list of options in a list of options ends the outer one. -/
def openControl? (builder : Builder) (tag : OpeningTag) : Option Builder :=
  let pushAfter (prepared : Builder) := prepared.reconstruct.pushHtml tag.name tag.attributes
  let isChoosing := builder.hasOpen .element "select"
  if tag.name = "button" then some (pushAfter (builder.closeInScope .element "button"))
  else if tag.name = "input" then
    let closed := if isChoosing then builder.popNamed "select" else builder
    some (closed.reconstruct.insertVoid tag.name tag.attributes)
  else if tag.name = "select" then
    some (if isChoosing then builder.popNamed "select" else pushAfter builder)
  else if tag.name = "option" then some (pushAfter (builder.closeOption "optgroup"))
  else if tag.name = "optgroup" then some (pushAfter (builder.closeOption ""))
  else if tag.name = "textarea" then
    some { builder.pushRaw .withReferences tag with dropsLineFeed := true }
  else none

/-- A tree after an opening tag of formatting, none if the tag is none of formatting. -/
def openFormatting? (builder : Builder) (tag : OpeningTag) : Option Builder :=
  let openAfter (prepared : Builder) := prepared.openFormatting tag.name tag.attributes
  if tag.name = "a" then some (openAfter builder.closeLink.reconstruct)
  else if tag.name = "nobr" then
    let reopened := builder.reconstruct
    some (openAfter (if reopened.hasOpen .element "nobr" then
      (reopened.closeFormatting "nobr").reconstruct else reopened))
  else if formattingElements.contains tag.name then some (openAfter builder.reconstruct)
  else none

/-- A tree after an opening tag of an element without content, or whose content is text, none if the
tag is none of these. -/
def openLeaf? (builder : Builder) (tag : OpeningTag) : Option Builder :=
  if ["area", "br", "embed", "img", "keygen", "wbr"].contains tag.name then
    some (builder.reconstruct.insertVoid tag.name tag.attributes)
  else if tag.name = "image" then
    some (builder.reconstruct.insertVoid "img" tag.attributes)
  else if ["param", "source", "track"].contains tag.name then
    some (builder.insertVoid tag.name tag.attributes)
  else if tag.name = "hr" then
    let closed := builder.closeParagraph
    let chosen := if closed.hasOpen .element "select" then closed.closeImplied "" else closed
    some (chosen.insertVoid tag.name tag.attributes)
  else if tag.name = "xmp" then
    some (builder.closeParagraph.reconstruct.pushRaw .verbatim tag)
  else if ["iframe", "noembed", "noscript"].contains tag.name then
    some (builder.pushRaw .verbatim tag)
  else none

/-- A tree after an opening tag that starts a drawing or a formula. -/
def openForeign (builder : Builder) (vocabulary : Vocabulary) (name : String)
    (tag : OpeningTag) : Builder :=
  let attributes := tag.attributes.map (Attribute.inVocabulary vocabulary)
  if tag.selfCloses then (builder.insertElement ⟨vocabulary, name⟩ attributes).1
  else builder.push ⟨vocabulary, name⟩ attributes

def openOther (builder : Builder) (tag : OpeningTag) : Builder :=
  if misplacedElements.contains tag.name then builder
  else if enclosingElements.contains tag.name then
    (builder.reconstruct.pushHtml tag.name tag.attributes).enclose
  else if ["rb", "rtc", "rp", "rt"].contains tag.name then
    let except := if tag.name = "rp" ∨ tag.name = "rt" then "rtc" else ""
    let closed := if builder.hasOpen .element "ruby" then builder.closeImplied except else builder
    closed.pushHtml tag.name tag.attributes
  else if tag.name = "svg" then builder.openForeign .svg tag.name tag
  else if tag.name = "math" then builder.openForeign .math tag.name tag
  else builder.reconstruct.pushHtml tag.name tag.attributes

def openInBody (builder : Builder) (tag : OpeningTag) : Builder :=
  let opened := (builder.openMetadata? tag).or <| (builder.openBlock? tag).or <|
    (builder.openControl? tag).or <| (builder.openFormatting? tag).or (builder.openLeaf? tag)
  opened.getD (builder.openOther tag)

/-- A tree after the closing tag of a heading, which closes a heading of any level. -/
def closeHeading (builder : Builder) : Builder :=
  let isHeading (opened : OpenElement) : Bool := opened.name.isAny headings
  if builder.inScope .element isHeading then (builder.closeImplied "").popThrough isHeading
  else builder

/-- A tree after a closing tag outside tables. -/
def closeInBody (builder : Builder) (name : String) : Builder :=
  if name = "template" then builder.closeTemplate
  else if name = "body" ∨ name = "html" then builder
  else if name = "p" then
    (if builder.hasOpen .button "p" then builder else builder.pushHtml "p" []).closeNamed "p"
  else if name = "br" then builder.reconstruct.insertVoid "br" []
  else if name = "form" then builder.closeForm
  else if name = "li" ∨ name = "dd" ∨ name = "dt" then
    let scope : Scope := if name = "li" then .listItem else .element
    if builder.hasOpen scope name then builder.closeNamed name else builder
  else if headings.contains name then builder.closeHeading
  else if closableElements.contains name then builder.closeInScope .element name
  else if enclosingElements.contains name then
    if builder.hasOpen .element name then (builder.closeInScope .element name).leaveEnclosed
    else builder
  else if formattingElements.contains name then builder.closeFormatting name
  else builder.closeOther name

/-- A tree after a token outside tables. -/
def inBody (builder : Builder) : Token → Builder
  | .char c => if c = '\x00' then builder else builder.reconstruct.insertChar c
  | .opening tag => builder.openInBody tag
  | .closing name => builder.closeInBody name
  | .comment | .skipped => builder

end Builder

end PostMarkup.Html
