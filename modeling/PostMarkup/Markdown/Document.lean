import PostMarkup.Markdown.BlockQuote
import PostMarkup.Markdown.CodeBlock

/-! # Rendering a document

Code blocks are folded first, then quotes are marked, and then each raw line that is left becomes
a heading, a rule, part of a list or a line of text.
-/

namespace PostMarkup.Markdown

open PostMarkup.Text

/-- The characters of a line from the first to the last that is neither a space nor a tab. -/
def trimSpacing (text : List Char) : List Char := dropBothWhile isSpaceOrTab text

/-- The level of the heading that a line makes of the line before it: one for equals signs and
two for hyphens, with at most three spaces before them. -/
def underlineLevel? (line : List Char) : Option Nat := do
  let text ← dropIndent? maxIndent line
  let underline := dropEndWhile isSpaceOrTab text
  let marker ← underline.head?
  if underline.all (· = marker) then
    if marker = '=' then some 1 else if marker = '-' then some 2 else none
  else none

/-- Whether a line is a rule: three or more of one of the characters hyphen, asterisk and
underscore, and otherwise only spaces and tabs. -/
def isRule (line : List Char) : Bool :=
  (dropIndent? maxIndent line).any fun text =>
    match text.filter fun c => !isSpaceOrTab c with
    | [] => false
    | marker :: rest =>
      (marker = '-' || marker = '*' || marker = '_') && rest.all (· = marker) && 2 ≤ rest.length

/-- The content of a heading without the number signs that may close it. -/
def dropClosingSigns (content : List Char) : List Char :=
  let kept := dropEndWhile (· = '#') content
  if kept.length < content.length ∧ kept.getLast?.all isSpaceOrTab then
    dropEndWhile isSpaceOrTab kept
  else content

/-- The level and the content of the heading on a line that starts with one to six number
signs. -/
def heading? (line : List Char) : Option (Nat × List Char) := do
  let text ← dropIndent? maxIndent line
  let level := (text.takeWhile (· = '#')).length
  let rest := text.drop level
  if 1 ≤ level ∧ level ≤ 6 ∧ rest.head?.all isSpaceOrTab then
    some (level, dropClosingSigns (trimSpacing rest))
  else none

/-- Whether a line is text: it is not blank and neither a rule nor a heading nor an item. -/
def isOrdinary (line : List Char) : Bool :=
  !isBlankLine line && !isRule line && (heading? line).isNone && (Item.read? line).isNone

/-- A text without the two spaces at its end that stand for a line break, and whether there are
any; on the last line they stand for themselves. -/
def cutHardBreak (isLast : Bool) (text : List Char) : List Char × Bool :=
  let spaces := [[' ', ' '], [wideSpace, wideSpace]]
  if !isLast && spaces.any (·.isSuffixOf text) then (text.dropLast.dropLast, true)
  else (text, false)

/-- The item lines at the start of a list of lines and the lines after them. -/
def readItems : List Line → List Item × List Line
  | [] => ([], [])
  | line :: rest =>
    match line.raw?.bind fun text => if isRule text then none else Item.read? text with
    | some item =>
      let (content, hardBreak) := cutHardBreak rest.isEmpty item.content
      let (items, after) := readItems rest
      ({ item with content := content, hardBreak := hardBreak } :: items, after)
    | none => ([], line :: rest)

theorem length_readItems_le (lines : List Line) : (readItems lines).2.length ≤ lines.length := by
  induction lines with
  | nil => simp [readItems]
  | cons line rest ih =>
    unfold readItems
    split
    · simp only [List.length_cons]
      omega
    · simp

/-- The heading that a text line and the line after it make up, and the lines after both. -/
def underlined? (text : List Char) (rest : List Line) : Option (Block × List Line) :=
  match rest with
  | .raw next :: after =>
    if isOrdinary text then
      (underlineLevel? next).map fun level => (.heading level (inlines (trim text)), after)
    else none
  | _ => none

theorem length_of_underlined? {text : List Char} {rest after : List Line} {block : Block}
    (found : underlined? text rest = some (block, after)) : after.length < rest.length := by
  unfold underlined? at found
  split at found
  · split at found
    · obtain ⟨level, _, same⟩ := Option.map_eq_some_iff.mp found
      simp only [Prod.mk.injEq] at same
      simp [same.2]
    · simp at found
  · simp at found

/-- The list that starts with an item line, and the lines after it. -/
def outline? (text : List Char) (rest : List Line) : Option (Block × List Line) :=
  if (Item.read? text).isNone then none
  else
    let (items, after) := readItems (.raw text :: rest)
    (Outline.ofItems? items).map fun outline => (.outline outline, after)

theorem length_of_outline? {text : List Char} {rest after : List Line} {block : Block}
    (found : outline? text rest = some (block, after)) : after.length ≤ rest.length := by
  simp only [outline?] at found
  split at found
  · simp at found
  · rename_i isItem
    obtain ⟨outline, formed, same⟩ := Option.map_eq_some_iff.mp found
    simp only [Prod.mk.injEq] at same
    rw [← same.2]
    unfold readItems at formed ⊢
    split
    · exact length_readItems_le rest
    · rename_i notRead
      simp [notRead, Outline.ofItems?] at formed

/-- The block that starts with a raw line, and the lines after it: a heading with an underline, a
rule, a heading, a list, or a line of text. -/
def readBlock (text : List Char) (rest : List Line) : Block × List Line :=
  match underlined? text rest with
  | some found => found
  | none =>
    if isRule text then (.rule, rest)
    else match heading? text with
      | some (level, content) => (.heading level (inlines content), rest)
      | none =>
        match outline? text rest with
        | some found => found
        | none =>
          let (content, hardBreak) := cutHardBreak rest.isEmpty text
          (.line (inlines content) hardBreak, rest)

theorem length_readBlock_le (text : List Char) (rest : List Line) :
    (readBlock text rest).2.length ≤ rest.length := by
  unfold readBlock
  split
  · rename_i found
    exact Nat.le_of_lt (length_of_underlined? found)
  · split
    · exact Nat.le_refl _
    · split
      · exact Nat.le_refl _
      · split
        · rename_i found
          exact length_of_outline? found
        · exact Nat.le_refl _

/-- The blocks of lines whose code blocks are folded and whose quotes are marked. -/
def readBlocks : List Line → List Block
  | [] => []
  | .done block :: rest => block :: readBlocks rest
  | .raw text :: rest => (readBlock text rest).1 :: readBlocks (readBlock text rest).2
termination_by lines => lines.length
decreasing_by
  · simp
  · have := length_readBlock_le text rest
    simp only [List.length_cons]
    omega

def readDocument (text : List Char) : List Block :=
  readBlocks (markAllQuotes (foldCode (lines text)))

/-- The HTML of a document. -/
def render (text : List Char) : List Char :=
  joinWith '\n' ((readDocument text).map Block.html)

end PostMarkup.Markdown
