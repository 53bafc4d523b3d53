import PostMarkup.Tag.Outermost
import PostMarkup.Text.Lines

/-! # Paragraphs

The text between block elements is wrapped into paragraphs at its blank lines, and its other line
ends become breaks. Line ends remain only in preformatted elements. The body of a block quote is
treated in the same way.
-/

namespace PostMarkup.Layout

open PostMarkup.Text

/-- The elements that stand between paragraphs. -/
def blockElements : ElementNames where
  normal := ["ul", "ol", "blockquote", "pre", "h1", "h2", "h3", "h4", "h5", "h6"]
  void := ["hr"]

/-- A part of markup that is laid out on its own. -/
inductive Block where
  | text (markup : List Char)
  | element (name markup : List Char)

namespace Block

def source : Block → List Char
  | text markup => markup
  | element _ markup => markup

end Block

/-- The blocks that segments make up: elements, and the text between every two of them. -/
def blocks : List Segment → List Block
  | [] => []
  | .element name pieces :: rest => .element name (sourceOf pieces) :: blocks rest
  | .plain piece :: rest =>
    match blocks rest with
    | .text markup :: others => .text (piece.source ++ markup) :: others
    | others => .text piece.source :: others

/-- The blocks of segments hold their characters in order. -/
theorem source_blocks (parts : List Segment) :
    (blocks parts).flatMap Block.source = parts.flatMap Segment.source := by
  induction parts with
  | nil => rfl
  | cons part rest ih =>
    cases part with
    | element name pieces => simp [blocks, Block.source, Segment.source, ih]
    | plain piece =>
      simp only [blocks, List.flatMap_cons, ← ih, Segment.source]
      cases blocks rest with
      | nil => simp [Block.source]
      | cons block others => cases block <;> simp [Block.source]

def blocksOf (markup : List Char) : List Block := blocks (segments blockElements (pieces markup))

/-- No block is longer than the text it comes from. -/
theorem length_source_le {markup : List Char} {block : Block} (member : block ∈ blocksOf markup) :
    block.source.length ≤ markup.length := by
  have whole : (blocksOf markup).flatMap Block.source = markup := by
    rw [blocksOf, source_blocks, source_segments, source_pieces]
  obtain ⟨before, after, split⟩ := List.append_of_mem member
  rw [split] at whole
  have lengths := congrArg List.length whole
  simp at lengths
  omega

/-- The paragraphs of lines: their runs without a blank line. -/
def paragraphs : List (List Char) → List (List (List Char))
  | [] => []
  | [line] => if isBlankLine line then [] else [[line]]
  | line :: next :: rest =>
    if isBlankLine line then paragraphs (next :: rest)
    else if isBlankLine next then [line] :: paragraphs rest
    else match paragraphs (next :: rest) with
      | first :: others => (line :: first) :: others
      | [] => [[line]]

def lineBreak : List Char := "<br />".toList

/-- The lines of a paragraph with a break between every two of them, unless the first of the two
ends in one already. -/
def joinLines : List (List Char) → List Char
  | [] => []
  | [line] => line
  | line :: next :: rest =>
    line ++ (if lineBreak.isSuffixOf line then [] else lineBreak) ++ joinLines (next :: rest)

/-- A text between block elements as paragraphs. -/
def wrap (markup : List Char) : List Char :=
  (paragraphs (splitAt '\n' (replaceAll ['\r', '\n'] ['\n'] markup))).flatMap fun lines =>
    "<p>".toList ++ joinLines lines ++ "</p>".toList

/-- The text before the last occurrence of `</` and the text from it on. -/
def cutAtLastClosing? : List Char → Option (List Char × List Char)
  | [] => none
  | c :: rest =>
    match cutAtLastClosing? rest with
    | some (before, after) => some (c :: before, after)
    | none => if "</".toList.isPrefixOf (c :: rest) then some ([], c :: rest) else none

theorem eq_of_cutAtLastClosing? {text before after : List Char}
    (cut : cutAtLastClosing? text = some (before, after)) : text = before ++ after := by
  induction text generalizing before after with
  | nil => simp [cutAtLastClosing?] at cut
  | cons c rest ih =>
    unfold cutAtLastClosing? at cut
    split at cut
    · rename_i found
      simp only [Option.some.injEq, Prod.mk.injEq] at cut
      obtain ⟨rfl, rfl⟩ := cut
      simp [ih found]
    · split at cut <;> simp_all

/-- The opening tag, the body and the closing tag of an element. -/
def elementParts? (element : List Char) : Option (List Char × List Char × List Char) := do
  let (opening, rest) ← cutAt? '>' element
  let (body, closing) ← cutAtLastClosing? rest
  return (opening ++ ['>'], body, closing)

/-- The parts of an element make up the element. -/
theorem eq_of_elementParts? {element opening body closing : List Char}
    (parts : elementParts? element = some (opening, body, closing)) :
    element = opening ++ body ++ closing ∧ 0 < opening.length := by
  simp only [elementParts?, Option.bind_eq_bind, Option.bind_eq_some_iff] at parts
  obtain ⟨⟨before, rest⟩, first, ⟨inner, last⟩, second, same⟩ := parts
  simp only [Option.pure_def, Option.some.injEq, Prod.mk.injEq] at same
  obtain ⟨rfl, rfl, rfl⟩ := same
  have body := eq_of_cutAtLastClosing? second
  simp only at body
  simp [eq_of_cutAt? first, body]

/-- Markup in paragraphs. -/
def inParagraphs (markup : List Char) : List Char :=
  (blocksOf markup).attach.flatMap fun ⟨block, _member⟩ =>
    match _shape : block with
    | .text text => wrap text
    | .element name element =>
      if name = "pre".toList then element
      else if name = "blockquote".toList then
        match _parts : elementParts? element with
        | some (opening, body, closing) => opening ++ inParagraphs body ++ closing
        | none => element.filter (· ≠ '\n')
      else element.filter (· ≠ '\n')
termination_by markup.length
decreasing_by
  have bound := length_source_le _member
  obtain ⟨same, positive⟩ := eq_of_elementParts? _parts
  simp only [Block.source, same, List.length_append] at bound
  omega

end PostMarkup.Layout
