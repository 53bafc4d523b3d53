import PostMarkup.Reference.Reader

/-! # The text of HTML

HTML is reduced to its text: a line feed follows each run of tags that end a line, then the tags
are dropped, and at last the references are read, so that nothing they stand for is taken for a
tag.
-/

namespace PostMarkup.PlainText

def lineEnds : List (List Char) := ["<br />".toList, "<br>".toList, "</p>".toList]

/-- HTML with a line feed after each run of tags that end a line; `inRun` says whether the text
follows such a tag. -/
def breakLines (inRun : Bool) : List Char → List Char
  | [] => if inRun then ['\n'] else []
  | c :: rest =>
    match lineEnds.find? (·.isPrefixOf (c :: rest)) with
    | some tag => tag ++ breakLines true (rest.drop (tag.length - 1))
    | none => if inRun then '\n' :: c :: breakLines false rest else c :: breakLines false rest
termination_by html => html.length
decreasing_by all_goals (simp only [List.length_cons, List.length_drop]; omega)

/-- The text outside `<…>`; a `<` that no `>` follows swallows the rest. -/
def withoutTags (markup : List Char) : List Char := outside markup
where
  /-- The text after a point outside tags. -/
  outside : List Char → List Char
    | [] => []
    | c :: rest => if c = '<' then inside rest else c :: outside rest
  /-- The text after a point inside a tag. -/
  inside : List Char → List Char
    | [] => []
    | c :: rest => if c = '>' then outside rest else inside rest

/-- The text of HTML. -/
def ofHtml (html : List Char) : List Char := unescape (withoutTags (breakLines false html))

end PostMarkup.PlainText
