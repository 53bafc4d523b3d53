import PostMarkup.Element
import PostMarkup.LinkTarget

/-! # Inline markup and its HTML

The parts of one line of rendered text. A link or an image carries the marker of
`PostMarkup.LinkTarget`, so that its target can be held encoded later on.
-/

namespace PostMarkup.Markdown

/-- How a part of a line is set off. -/
inductive Style where
  | strong
  | strike
  | underline
  | highlight
  | emphasis
  | superscript
deriving DecidableEq, Repr

namespace Style

def element : Style → List Char
  | strong => "strong".toList
  | strike => "s".toList
  | underline => "u".toList
  | highlight => "mark".toList
  | emphasis => "em".toList
  | superscript => "sup".toList

end Style

/-- A link or an image. -/
structure Target where
  url : List Char
  label : List Char
  title : Option (List Char)
deriving DecidableEq, Repr

/-- A part of a line. -/
inductive Inline where
  | text (characters : List Char)
  | code (characters : List Char)
  | link (target : Target)
  | image (target : Target)
  | styled (style : Style) (content : List Inline)

namespace Target

/-- The image of a target, with its label as the title if it has none of its own. -/
def writeImage (target : Target) : List Char :=
  "<img".toList ++ writeAttribute "src" target.url ++ writeAttribute "alt" target.label ++
    writeAttribute "title" (target.title.getD target.label) ++ ' ' :: LinkTarget.marker ++
    " />".toList

def writeLink (target : Target) : List Char :=
  "<a".toList ++ writeAttribute "href" target.url ++
    (target.title.map (writeAttribute "title")).getD [] ++ ' ' :: LinkTarget.marker ++
    writeAttribute "target" "_blank".toList ++ writeAttribute "rel" linkRelation ++
    '>' :: escapeText target.label ++ "</a>".toList

end Target

mutual

def Inline.html : Inline → List Char
  | .text characters => escapeText characters
  | .code characters => writeElement "code".toList (escapeText characters)
  | .link target => target.writeLink
  | .image target => target.writeImage
  | .styled style content => writeElement style.element (Inline.htmlOf content)

def Inline.htmlOf : List Inline → List Char
  | [] => []
  | part :: rest => part.html ++ Inline.htmlOf rest

end

@[simp] theorem Inline.htmlOf_nil : Inline.htmlOf [] = [] := by simp [Inline.htmlOf]

@[simp] theorem Inline.htmlOf_cons (part : Inline) (rest : List Inline) :
    Inline.htmlOf (part :: rest) = part.html ++ Inline.htmlOf rest := by simp [Inline.htmlOf]

end PostMarkup.Markdown
