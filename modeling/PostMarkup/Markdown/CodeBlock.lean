import PostMarkup.Markdown.Line

/-! # Code blocks

A fenced block reaches from an opening fence to the first line that closes it; without such a line
the fence is an ordinary line. An indented block starts after a blank line or at the beginning and
holds indented lines and the blank lines between them. A line outside all blocks stays as it is, and
the length lemmas state that every block leaves fewer lines.
-/

namespace PostMarkup.Markdown

open PostMarkup.Text

/-- The line that opens a fenced block. -/
structure Fence where
  indent : Nat
  marker : Char
  length : Nat
  language : Option (List Char)
deriving DecidableEq, Repr

namespace Fence

/-- Whether a character may stand in the name of a language. -/
def isLanguageChar (c : Char) : Bool :=
  c.isAlphanum || c = '_' || c = '+' || c = '#' || c = '.' || c = '-'

/-- The language that the text after a fence names: its first word, if it is a name. -/
def language? (info : List Char) : Option (List Char) :=
  let word := (info.dropWhile isBlank).takeWhile fun c => !isBlank c
  if !word.isEmpty && word.all isLanguageChar then some word else none

/-- The opening fence on a line: at least three backticks or tildes, with no backtick after
them. -/
def read? (line : List Char) : Option Fence := do
  let text ← dropIndent? maxIndent line
  let marker ← text.head?
  let length := (text.takeWhile (· = marker)).length
  let info := text.drop length
  if (marker = '\x60' ∨ marker = '~') ∧ 3 ≤ length ∧ '\x60' ∉ info then
    some ⟨line.length - text.length, marker, length, language? info⟩
  else none

/-- Whether a line closes the block that a fence opens: the same marker at least as often, and
nothing but spaces and tabs after it. -/
def closedBy (fence : Fence) (line : List Char) : Bool :=
  (dropIndent? maxIndent line).any fun text =>
    let length := (text.takeWhile (· = fence.marker)).length
    fence.length ≤ length && (text.drop length).all isSpaceOrTab

/-- A line without the spaces at its start, at most the given number of them. -/
def dropSpaces : Nat → List Char → List Char
  | count + 1, ' ' :: rest => dropSpaces count rest
  | _, line => line

/-- The lines before the one that closes a block, and the lines after it. -/
def body? (fence : Fence) : List (List Char) → Option (List (List Char) × List (List Char))
  | [] => none
  | line :: rest =>
    if fence.closedBy line then some ([], rest)
    else (fence.body? rest).map fun (body, after) => (dropSpaces fence.indent line :: body, after)

theorem length_of_body? {fence : Fence} {lines body after : List (List Char)}
    (found : fence.body? lines = some (body, after)) :
    lines.length = body.length + 1 + after.length := by
  induction lines generalizing body after with
  | nil => simp [body?] at found
  | cons line rest ih =>
    unfold body? at found
    split at found
    · simp only [Option.some.injEq, Prod.mk.injEq] at found
      simp [← found.1, ← found.2]; omega
    · obtain ⟨⟨inner, beyond⟩, closed, same⟩ := Option.map_eq_some_iff.mp found
      simp only [Prod.mk.injEq] at same
      obtain ⟨rfl, rfl⟩ := same
      have := ih closed
      simp; omega

end Fence

/-- A line without the indentation of a code block: a tab or four spaces. -/
def dropCodeIndent? : List Char → Option (List Char)
  | '\t' :: rest => some rest
  | ' ' :: ' ' :: ' ' :: ' ' :: rest => some rest
  | _ => none

/-- The lines of an indented block at the start of a list and the lines after it, where blank
lines are kept back until an indented line follows them. -/
def indentedLines (blanks : List (List Char)) :
    List (List Char) → List (List Char) × List (List Char)
  | [] => ([], blanks.reverse)
  | line :: rest =>
    if isBlankLine line then indentedLines (line :: blanks) rest
    else match dropCodeIndent? line with
      | some content =>
        let (body, after) := indentedLines [] rest
        (blanks.map (fun _ => []) ++ content :: body, after)
      | none => ([], blanks.reverse ++ line :: rest)

theorem length_indentedLines_le (blanks lines : List (List Char)) :
    (indentedLines blanks lines).2.length ≤ blanks.length + lines.length := by
  induction lines generalizing blanks with
  | nil => simp [indentedLines]
  | cons line rest ih =>
    unfold indentedLines
    split
    · have := ih (line :: blanks)
      simp only [List.length_cons] at this ⊢
      omega
    · split
      · have := ih []
        simp only [List.length_nil, List.length_cons] at this ⊢
        omega
      · simp

/-- The indented block that starts with a line, and the lines after it. -/
def indentedBlock? (line : List Char) (rest : List (List Char)) :
    Option (List (List Char) × List (List Char)) :=
  if isBlankLine line then none
  else (dropCodeIndent? line).map fun content =>
    let (body, after) := indentedLines [] rest
    (content :: body, after)

theorem length_of_indentedBlock? {line : List Char} {rest body after : List (List Char)}
    (found : indentedBlock? line rest = some (body, after)) : after.length ≤ rest.length := by
  unfold indentedBlock? at found
  split at found
  · simp at found
  · obtain ⟨content, _, same⟩ := Option.map_eq_some_iff.mp found
    simp only [Prod.mk.injEq] at same
    have := length_indentedLines_le [] rest
    simp only [List.length_nil] at this
    rw [← same.2]
    omega

/-- The fenced block that starts with a line, and the lines after it. -/
def fencedBlock? (line : List Char) (rest : List (List Char)) :
    Option (Block × List (List Char)) := do
  let fence ← Fence.read? line
  let (body, after) ← fence.body? rest
  return (.code fence.language body, after)

theorem length_of_fencedBlock? {line : List Char} {rest after : List (List Char)} {block : Block}
    (found : fencedBlock? line rest = some (block, after)) : after.length < rest.length := by
  simp only [fencedBlock?, Option.bind_eq_bind, Option.bind_eq_some_iff] at found
  obtain ⟨fence, _, ⟨body, beyond⟩, closed, same⟩ := found
  simp only [Option.pure_def, Option.some.injEq, Prod.mk.injEq] at same
  have := Fence.length_of_body? closed
  rw [← same.2]
  omega

/-- The code block that starts with a line, and the lines after it; `afterBlank` says whether the
line comes first or after a blank line. -/
def codeBlock? (afterBlank : Bool) (line : List Char) (rest : List (List Char)) :
    Option (Block × List (List Char)) :=
  match fencedBlock? line rest with
  | some found => some found
  | none =>
    if afterBlank && (Item.read? line).isNone then
      (indentedBlock? line rest).map fun (body, after) => (.code none body, after)
    else none

theorem length_of_codeBlock? {afterBlank : Bool} {line : List Char}
    {rest after : List (List Char)} {block : Block}
    (found : codeBlock? afterBlank line rest = some (block, after)) :
    after.length ≤ rest.length := by
  unfold codeBlock? at found
  split at found
  · rename_i fenced
    rw [found] at fenced
    exact Nat.le_of_lt (length_of_fencedBlock? fenced)
  · split at found
    · obtain ⟨⟨body, beyond⟩, indented, same⟩ := Option.map_eq_some_iff.mp found
      simp only [Prod.mk.injEq] at same
      rw [← same.2]
      exact length_of_indentedBlock? indented
    · simp at found

/-- Lines with their code blocks folded; `afterBlank` says whether the lines come first or after a
blank line. -/
def foldCodeFrom (afterBlank : Bool) : List (List Char) → List Line
  | [] => []
  | line :: rest =>
    match _found : codeBlock? afterBlank line rest with
    | some (block, after) => .done block :: foldCodeFrom false after
    | none => .raw line :: foldCodeFrom (isBlankLine line) rest
termination_by lines => lines.length
decreasing_by
  · have := length_of_codeBlock? _found
    simp only [List.length_cons]
    omega
  · simp

/-- Lines with their code blocks folded. -/
def foldCode (lines : List (List Char)) : List Line := foldCodeFrom true lines

end PostMarkup.Markdown
