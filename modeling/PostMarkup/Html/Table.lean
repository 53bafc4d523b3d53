import PostMarkup.Html.Body

/-! # Tables

A table holds captions, columns and groups of rows, a group holds rows, and a row holds cells. What
is missing between two of these is added, and what is open inside is closed. Other content of a
table, spaces apart, is put in front of it.
-/

namespace PostMarkup.Html

/-- What a token leads to. -/
inductive Step where
  | done (builder : Builder)
  /-- The token is read again, in the mode that the builder is in now. -/
  | again (builder : Builder)

def rowGroups : List String := ["tbody", "tfoot", "thead"]

/-- Opening tags that end a caption or a cell. -/
def tableTags : List String :=
  ["caption", "col", "colgroup", "tbody", "td", "tfoot", "th", "thead", "tr"]

def isTableSpace (c : Char) : Bool := isTagSpace c || c = '\r'

namespace Builder

/-- A tree after a token whose nodes are put in front of the table. -/
def inFront (builder : Builder) (token : Token) : Builder :=
  { { builder with fosters := true }.inBody token with fosters := false }

def inTableScope (builder : Builder) (name : String) : Bool := builder.hasOpen .table name

/-- A tree in which the innermost table, group of rows or row is the innermost element: one of the
names, or a template. -/
def backTo (builder : Builder) (names : List String) : Builder :=
  builder.popInside fun name => name.isAny ("template" :: names)

def withMode (builder : Builder) (mode : Mode) : Builder := { builder with mode }

/-- A tree after the innermost element of a name is closed that encloses formatting. -/
def closeEnclosing (builder : Builder) (fits : OpenElement → Bool) (mode : Mode) : Builder :=
  (((builder.closeImplied "").popThrough fits).leaveEnclosed).withMode mode

def openInTable (builder : Builder) (tag : OpeningTag) : Step :=
  let cleared := builder.backTo ["table"]
  if tag.name = "caption" then
    .done ((cleared.enclose.pushHtml tag.name tag.attributes).withMode .caption)
  else if tag.name = "colgroup" then
    .done ((cleared.pushHtml tag.name tag.attributes).withMode .columns)
  else if tag.name = "col" then .again ((cleared.pushHtml "colgroup" []).withMode .columns)
  else if rowGroups.contains tag.name then
    .done ((cleared.pushHtml tag.name tag.attributes).withMode .rows)
  else if ["td", "th", "tr"].contains tag.name then
    .again ((cleared.pushHtml "tbody" []).withMode .rows)
  else if tag.name = "table" then
    if builder.inTableScope "table" then .again (builder.popNamed "table").resetMode
    else .done builder
  else if ["style", "script", "template"].contains tag.name then
    .done ((builder.openMetadata? tag).getD builder)
  else if tag.name = "input" then
    let isHidden := tag.attributes.any fun written =>
      written.name = "type" && Text.lowerAscii written.value = "hidden".toList
    .done (if isHidden then builder.insertVoid tag.name tag.attributes
      else builder.inFront (.opening tag))
  else if tag.name = "form" then
    if builder.form.isSome || builder.isInside "template" then .done builder
    else
      let (inserted, number) := builder.insertElement ⟨.html, tag.name⟩ tag.attributes
      .done { inserted with form := some number }
  else .done (builder.inFront (.opening tag))

def inTable (builder : Builder) (token : Token) : Step :=
  match token with
  | .char _ =>
    if builder.current.name.isAny tableParts then
      .again { builder with mode := .tableText, outerMode := builder.mode }
    else .done (builder.inFront token)
  | .opening tag => builder.openInTable tag
  | .closing name =>
    if name = "table" then
      .done (if builder.inTableScope name then (builder.popNamed name).resetMode else builder)
    else if name = "template" then .done builder.closeTemplate
    else if name = "body" ∨ name = "html" ∨ name ∈ tableTags then .done builder
    else .done (builder.inFront token)
  | .comment | .skipped => .done builder

/-- A tree with the text that stands directly in a table: in front of the table unless there are
only spaces. -/
def flushText (builder : Builder) : Builder :=
  let text := builder.tableText.reverse
  let flushed := { builder with mode := builder.outerMode, tableText := [] }
  if text.all isTableSpace then text.foldl insertChar flushed
  else text.foldl (fun placed c => placed.inFront (.char c)) flushed

def inTableText (builder : Builder) : Token → Step
  | .char c =>
    .done (if c = '\x00' then builder else { builder with tableText := c :: builder.tableText })
  | _ => .again builder.flushText

def inCaption (builder : Builder) (token : Token) : Step :=
  let close (finish : Builder → Step) : Step :=
    if builder.inTableScope "caption" then
      finish (builder.closeEnclosing (fun opened => opened.name.isNamed "caption") .table)
    else .done builder
  match token with
  | .opening tag =>
    if tableTags.contains tag.name then close .again else .done (builder.inBody token)
  | .closing name =>
    if name = "caption" then close .done
    else if name = "table" then close .again
    else if name = "body" ∨ name = "html" ∨ name ∈ tableTags then .done builder
    else .done (builder.inBody token)
  | _ => .done (builder.inBody token)

def inColumns (builder : Builder) (token : Token) : Step :=
  let isDirect := builder.current.name.isNamed "colgroup"
  let leave : Step := if isDirect then .again (builder.pop.withMode .table) else .done builder
  match token with
  | .char c => if isTableSpace c then .done (builder.insertChar c) else leave
  | .opening tag =>
    if tag.name = "html" then .done builder
    else if tag.name = "col" then .done (builder.insertVoid tag.name tag.attributes)
    else if tag.name = "template" then .done (builder.openTemplate tag.attributes)
    else leave
  | .closing name =>
    if name = "colgroup" then .done (if isDirect then builder.pop.withMode .table else builder)
    else if name = "col" then .done builder
    else if name = "template" then .done builder.closeTemplate
    else leave
  | .comment | .skipped => .done builder

def inRows (builder : Builder) (token : Token) : Step :=
  let cleared := builder.backTo rowGroups
  let leave : Step :=
    if builder.inScope .table fun opened => opened.name.isAny ["table", "tbody", "tfoot"] then
      .again (cleared.pop.withMode .table)
    else .done builder
  match token with
  | .opening tag =>
    if tag.name = "tr" then .done ((cleared.pushHtml tag.name tag.attributes).withMode .row)
    else if tag.name = "td" ∨ tag.name = "th" then
      .again ((cleared.pushHtml "tr" []).withMode .row)
    else if tableTags.contains tag.name then leave
    else builder.inTable token
  | .closing name =>
    if rowGroups.contains name then
      .done (if builder.inTableScope name then cleared.pop.withMode .table else builder)
    else if name = "table" then leave
    else builder.inTable token
  | _ => builder.inTable token

def inRow (builder : Builder) (token : Token) : Step :=
  let cleared := builder.backTo ["tr"]
  let leave : Step :=
    if builder.inTableScope "tr" then .again (cleared.pop.withMode .rows) else .done builder
  match token with
  | .opening tag =>
    if tag.name = "td" ∨ tag.name = "th" then
      .done ((cleared.pushHtml tag.name tag.attributes).enclose.withMode .cell)
    else if tableTags.contains tag.name then leave
    else builder.inTable token
  | .closing name =>
    if name = "tr" then
      .done (if builder.inTableScope name then cleared.pop.withMode .rows else builder)
    else if name = "table" then leave
    else if rowGroups.contains name then
      if builder.inTableScope name then leave else .done builder
    else builder.inTable token
  | _ => builder.inTable token

def closeCell (builder : Builder) : Builder :=
  builder.closeEnclosing (fun opened => opened.name.isAny ["td", "th"]) .row

def inCell (builder : Builder) (token : Token) : Step :=
  match token with
  | .opening tag =>
    if tableTags.contains tag.name then
      if builder.inScope .table fun opened => opened.name.isAny ["td", "th"] then
        .again builder.closeCell
      else .done builder
    else .done (builder.inBody token)
  | .closing name =>
    if name = "td" ∨ name = "th" then
      .done (if builder.inTableScope name then
        builder.closeEnclosing (fun opened => opened.name.isNamed name) .row else builder)
    else if ["body", "caption", "col", "colgroup", "html"].contains name then .done builder
    else if name = "table" ∨ name = "tr" ∨ name ∈ rowGroups then
      if builder.inTableScope name then .again builder.closeCell else .done builder
    else .done (builder.inBody token)
  | _ => .done (builder.inBody token)

def modeOfTemplate (name : String) : Mode :=
  if name = "col" then .columns
  else if name = "tr" then .rows
  else if name = "td" ∨ name = "th" then .row
  else if tableTags.contains name then .table
  else .body

def inTemplate (builder : Builder) (token : Token) : Step :=
  match token with
  | .opening tag =>
    match builder.openMetadata? tag with
    | some opened => .done opened
    | none =>
      let mode := modeOfTemplate tag.name
      .again { builder with mode, templateModes := mode :: builder.templateModes.tail }
  | .closing name => .done (if name = "template" then builder.closeTemplate else builder)
  | _ => .done (builder.inBody token)

/-- A tree after a token in the text of an element without markup. -/
def inText (builder : Builder) : Token → Builder
  | .char c => builder.insertChar c
  | .closing _ => builder.pop.withMode builder.outerMode
  | .opening _ | .comment | .skipped => builder

def inMode (builder : Builder) (token : Token) : Step :=
  match builder.mode with
  | .body => .done (builder.inBody token)
  | .text => .done (builder.inText token)
  | .table => builder.inTable token
  | .tableText => builder.inTableText token
  | .caption => builder.inCaption token
  | .columns => builder.inColumns token
  | .rows => builder.inRows token
  | .row => builder.inRow token
  | .cell => builder.inCell token
  | .template => builder.inTemplate token

end Builder

end PostMarkup.Html
