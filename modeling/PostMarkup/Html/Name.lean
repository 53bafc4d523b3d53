import PostMarkup.Text.Ascii

/-! # Names of elements

An element belongs to one of three vocabularies: HTML itself, drawings, and formulas. How a source
is read depends on what is open, by the lists of names below; where nothing else is said, a list is
about elements of HTML.
-/

namespace PostMarkup.Html

/-- The language that an element belongs to. -/
inductive Vocabulary where
  | html
  | svg
  | math
deriving DecidableEq, Repr

/-- The name of an element in its vocabulary. -/
structure ElementName where
  vocabulary : Vocabulary
  name : String
deriving DecidableEq, Repr

namespace ElementName

def isAny (element : ElementName) (names : List String) : Bool :=
  element.vocabulary = .html && names.contains element.name

def isNamed (element : ElementName) (name : String) : Bool :=
  element.vocabulary = .html && element.name = name

def holdsMathText (element : ElementName) : Bool :=
  element.vocabulary = .math && ["mi", "mo", "mn", "ms", "mtext"].contains element.name

def holdsHtml (element : ElementName) : Bool :=
  element.vocabulary = .svg && ["foreignObject", "desc", "title"].contains element.name

end ElementName

/-- The name of the element around a fragment. -/
def rootName : ElementName := ⟨.html, "html"⟩

def voidElements : List String :=
  ["area", "base", "basefont", "bgsound", "br", "col", "embed", "frame", "hr", "img", "input",
    "keygen", "link", "meta", "param", "source", "track", "wbr"]

/-- Paragraphs end where one of these starts. -/
def blockElements : List String :=
  ["address", "article", "aside", "blockquote", "center", "details", "dialog", "dir", "div", "dl",
    "fieldset", "figcaption", "figure", "footer", "header", "hgroup", "main", "menu", "nav", "ol",
    "p", "search", "section", "summary", "ul"]

def headings : List String := ["h1", "h2", "h3", "h4", "h5", "h6"]

/-- Elements that are opened again when they are closed in passing. -/
def formattingElements : List String :=
  ["a", "b", "big", "code", "em", "font", "i", "nobr", "s", "small", "strike", "strong", "tt", "u"]

/-- Elements whose closing tag may be left out. -/
def impliedElements : List String :=
  ["dd", "dt", "li", "optgroup", "option", "p", "rb", "rp", "rt", "rtc"]

/-- Elements that end at the latest where a template ends. -/
def impliedInTemplates : List String :=
  impliedElements ++ ["caption", "colgroup", "tbody", "td", "tfoot", "th", "thead", "tr"]

/-- Elements that enclose the formatting inside them. -/
def enclosingElements : List String := ["applet", "marquee", "object"]

/-- Elements whose closing tags close whatever is open inside them. -/
def closableElements : List String :=
  ["address", "article", "aside", "blockquote", "button", "center", "details", "dialog", "dir",
    "div", "dl", "fieldset", "figcaption", "figure", "footer", "header", "hgroup", "listing",
    "main", "menu", "nav", "ol", "pre", "search", "section", "select", "summary", "ul"]

/-- Elements that an unknown closing tag does not look past and that formatting does not
enclose. -/
def specialElements : List String :=
  ["address", "applet", "area", "article", "aside", "base", "basefont", "bgsound", "blockquote",
    "body", "br", "button", "caption", "center", "col", "colgroup", "dd", "details", "dir", "div",
    "dl", "dt", "embed", "fieldset", "figcaption", "figure", "footer", "form", "frame", "frameset",
    "h1", "h2", "h3", "h4", "h5", "h6", "head", "header", "hgroup", "hr", "html", "iframe", "img",
    "input", "isindex", "li", "link", "listing", "main", "marquee", "menu", "meta", "nav",
    "noembed", "noframes", "noscript", "object", "ol", "p", "param", "plaintext", "pre", "script",
    "section", "select", "source", "style", "summary", "table", "tbody", "td", "template",
    "textarea", "tfoot", "th", "thead", "title", "tr", "track", "ul", "wbr", "xmp"]

/-- Special elements that the search for an open entry of a list looks past. -/
def simpleContainers : List String := ["address", "div", "p"]

/-- Opening tags that have no meaning outside the place where they belong. -/
def misplacedElements : List String :=
  ["html", "head", "body", "frameset", "frame", "caption", "col", "colgroup", "tbody", "td",
    "tfoot", "th", "thead", "tr"]

/-- Elements of the table itself, in which text has no place. -/
def tableParts : List String := ["table", "tbody", "tfoot", "thead", "tr"]

/-- Opening tags that end a drawing or a formula. -/
def breakoutElements : List String :=
  ["b", "big", "blockquote", "body", "br", "center", "code", "dd", "div", "dl", "dt", "em",
    "embed", "h1", "h2", "h3", "h4", "h5", "h6", "head", "hr", "i", "img", "li", "listing",
    "menu", "meta", "nobr", "ol", "p", "pre", "ruby", "s", "small", "span", "strong", "strike",
    "sub", "sup", "table", "tt", "u", "ul", "var"]

/-- What the search for an open element ends at. -/
inductive Scope where
  /-- Elements that hide what is open outside them. -/
  | element
  /-- Also lists. -/
  | listItem
  /-- Also buttons. -/
  | button
  /-- Tables and templates only. -/
  | table
deriving DecidableEq, Repr

/-- Whether an element hides what is open outside it. -/
def ElementName.hidesOuter (element : ElementName) : Bool :=
  element.isAny
      ["applet", "caption", "html", "table", "td", "th", "marquee", "object", "select",
        "template"] ||
    element.holdsMathText || element.holdsHtml

/-- Whether the search for an open element ends at an element. -/
def Scope.endsAt : Scope → ElementName → Bool
  | element, name => name.hidesOuter
  | listItem, name => name.hidesOuter || name.isAny ["ol", "ul"]
  | button, name => name.hidesOuter || name.isNamed "button"
  | table, name => name.isAny ["html", "table", "template"]

/-- Names of drawings that mix small and capital letters. -/
def drawingNames : List String :=
  ["altGlyph", "altGlyphDef", "altGlyphItem", "animateColor", "animateMotion",
    "animateTransform", "clipPath", "feBlend", "feColorMatrix", "feComponentTransfer",
    "feComposite", "feConvolveMatrix", "feDiffuseLighting", "feDisplacementMap",
    "feDistantLight", "feDropShadow", "feFlood", "feFuncA", "feFuncB", "feFuncG", "feFuncR",
    "feGaussianBlur", "feImage", "feMerge", "feMergeNode", "feMorphology", "feOffset",
    "fePointLight", "feSpecularLighting", "feSpotLight", "feTile", "feTurbulence",
    "foreignObject", "glyphRef", "linearGradient", "radialGradient", "textPath"]

/-- The name of small letters in the spelling of one of several names. -/
def respell (spellings : List String) (name : String) : String :=
  (spellings.find? fun spelling => spelling.map Char.toLower = name).getD name

end PostMarkup.Html
