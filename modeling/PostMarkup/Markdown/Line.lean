import PostMarkup.Markdown.Outline

/-! # Lines of a document

A document is a list of lines. A line that a construct has claimed becomes a finished block, and
later constructs look only at the raw lines that remain.
-/

namespace PostMarkup.Markdown

/-- A part of a document that takes whole lines. -/
inductive Block where
  | code (language : Option (List Char)) (lines : List (List Char))
  | quoteOpen
  | quoteClose
  | heading (level : Nat) (content : List Inline)
  | rule
  | outline (items : Outline)
  | line (content : List Inline) (hardBreak : Bool)

/-- A raw line or a finished block. -/
inductive Line where
  | raw (text : List Char)
  | done (block : Block)

namespace Line

def raw? : Line → Option (List Char)
  | raw text => some text
  | done _ => none

end Line

/-- A line indented by at most the given number of spaces, without them; a tab is too wide. -/
def dropIndent? : Nat → List Char → Option (List Char)
  | _, [] => some []
  | 0, c :: rest => if c = ' ' ∨ c = '\t' then none else some (c :: rest)
  | columns + 1, c :: rest =>
    if c = ' ' then dropIndent? columns rest else if c = '\t' then none else some (c :: rest)

/-- The most columns by which a line may be indented and still start a block. -/
def maxIndent : Nat := 3

namespace Block

def html : Block → List Char
  | code language lines =>
    let label := language.map fun word => writeAttribute "class" ("language-".toList ++ word)
    "<pre><code".toList ++ label.getD [] ++ '>' :: escapeText (Text.joinWith '\n' lines) ++
      "</code></pre>".toList
  | quoteOpen => "<blockquote>".toList
  | quoteClose => "</blockquote>".toList
  | heading level content =>
    writeElement ('h' :: (toString level).toList) (Inline.htmlOf content)
  | rule => "<hr />".toList
  | outline items => items.html
  | line content hardBreak =>
    Inline.htmlOf content ++ if hardBreak then "<br />".toList else []

end Block

end PostMarkup.Markdown
