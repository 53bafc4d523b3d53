import PostMarkup.Proofs.Markdown.FencedCode
import PostMarkup.Proofs.Markdown.Rendered
import PostMarkup.Proofs.PlainText.Shown

/-! # Folding code blocks

Folding cuts the lines of a document into groups, one for each record: a line that stays raw, the lines of a
fenced block with both of its fences, or the lines of an indented block. No line is lost, repeated or moved, and
the records of the blocks show the lines of their groups.
-/

namespace PostMarkup.Markdown

open PostMarkup.Text PostMarkup.PlainText

variable {fence : Fence} {afterBlank : Bool} {block : Block} {line : List Char}
  {lines rest after texts : List (List Char)}

/-- Whether a text is a line without the spaces at its start, or without as many of them as the fence before it is
indented by. -/
def Outdents (indent : Nat) (line text : List Char) : Prop :=
  ∃ count ≤ indent, line = List.replicate count ' ' ++ text ∧ (count = indent ∨ ' ' ∉ text.head?)

/-- Lines that follow each other, the lines after them, and the record that they are folded to. -/
inductive IsGroup : List (List Char) → List (List Char) → Line → Prop
  | raw {line : List Char} {rest : List (List Char)} :
      (∀ fence, Opens fence line → ∀ later ∈ rest, ¬Closes fence.marker fence.length later) →
      IsGroup [line] rest (.raw line)
  | fenced {fence : Fence} {opener closer : List Char} {body texts rest : List (List Char)} : Opens fence opener →
      (∀ line ∈ body, ¬Closes fence.marker fence.length line) → Closes fence.marker fence.length closer →
      List.Forall₂ (Outdents fence.indent) body texts →
      IsGroup (opener :: (body ++ [closer])) rest (.done (.code fence.language texts))
  | indented {group texts rest : List (List Char)} : (∀ line ∈ group.head?, isBlankLine line = false) →
      (∀ line ∈ group.getLast?, isBlankLine line = false) → List.Forall₂ IsCodeText group texts →
      IsGroup group rest (.done (.code none texts))

/-- Lines and their records, one for each group. -/
inductive Folds : List (List Char) → List Line → Prop
  | nil : Folds [] []
  | group {group rest : List (List Char)} {record : Line} {records : List Line} : group ≠ [] →
      IsGroup group rest record → Folds rest records → Folds (group ++ rest) (record :: records)

theorem outdents_dropSpaces (indent : Nat) (line : List Char) : Outdents indent line (Fence.dropSpaces indent line) := by
  fun_induction Fence.dropSpaces indent line with
  | case1 count rest ih =>
    obtain ⟨spaces, bound, whole, ends⟩ := ih
    refine ⟨spaces + 1, Nat.succ_le_succ bound, ?_, ends.imp_left (congrArg Nat.succ)⟩
    rw [List.replicate_succ, List.cons_append, ← whole]
  | case2 indent line other =>
    refine ⟨0, Nat.zero_le _, rfl, ?_⟩
    cases indent with
    | zero => exact .inl rfl
    | succ count =>
      refine .inr fun member => ?_
      obtain ⟨rest, rfl⟩ := List.head?_eq_some_iff.mp member
      exact other count rest rfl rfl

theorem exists_group_of_codeBlock? (found : codeBlock? afterBlank line rest = some (block, after)) :
    ∃ group, line :: rest = group ++ after ∧ group ≠ [] ∧ IsGroup group after (.done block) := by
  rcases cases_of_codeBlock? found with ⟨fence, texts, read, closed, rfl⟩ | ⟨texts, indented, rfl⟩
  · have opens := Fence.read?_eq_some_iff.mp read
    obtain ⟨body, closer, rfl, unclosed, closes, rfl⟩ := Fence.body?_eq_some_iff.mp closed
    refine ⟨line :: (body ++ [closer]), by simp, List.cons_ne_nil _ _, ?_⟩
    refine .fenced opens (fun line member => opens.not_closes (unclosed line member)) (opens.closedBy_iff.mp closes) ?_
    rw [List.forall₂_map_right_iff, List.forall₂_same]
    exact fun line _ => outdents_dropSpaces fence.indent line
  · obtain ⟨others, rfl, stands, filled, ends⟩ := exists_of_indentedBlock? indented
    exact ⟨line :: others, rfl, List.cons_ne_nil _ _, .indented (by simpa using filled) ends stands⟩

theorem isGroup_raw (none : codeBlock? afterBlank line rest = none) : IsGroup [line] rest (.raw line) := by
  refine .raw fun fence opens later member => opens.not_closes ?_
  exact unclosed_of_codeBlock? none (Fence.read?_eq_some_iff.mpr opens) later member

theorem folds_foldCodeFrom (afterBlank : Bool) (lines : List (List Char)) : Folds lines (foldCodeFrom afterBlank lines) := by
  fun_induction foldCodeFrom afterBlank lines with
  | case1 => exact .nil
  | case2 afterBlank line rest block after found ih =>
    obtain ⟨group, whole, filled, folded⟩ := exists_group_of_codeBlock? found
    rw [whole]
    exact .group filled folded ih
  | case3 afterBlank line rest none ih => exact .group (List.cons_ne_nil _ _) (isGroup_raw none) ih

theorem withoutTags_code (language : Option (List Char)) (texts : List (List Char)) :
    withoutTags (Block.html (.code language texts)) = escapeText (joinWith '\n' texts) := by
  have label : ∀ entry ∈ language.toList.map fun word => Attribute.escaped "class" ("language-".toList ++ word),
      entry.IsClean := by
    intro entry member
    obtain ⟨word, -, rfl⟩ := List.mem_map.mp member
    exact Attribute.escaped_isClean (by decide) _
  have code : (codeTag language).IsCompact := Tag.opening_isCompact (by decide) label
  have pre : (Tag.opening "pre".toList []).IsCompact := Tag.opening_isCompact (by decide) (by simp)
  have written : Block.html (.code language texts) = (Tag.opening "pre".toList []).source ++ ((codeTag language).source ++
      (escapeText (joinWith '\n' texts) ++ ((Tag.stop "code".toList).source ++ ((Tag.stop "pre".toList).source ++ [])))) := by
    rw [html_code]
    simp [writeElement, Tag.opening, Tag.start, Tag.stop]
  rw [written, withoutTags_tag pre, withoutTags_tag code, withoutTags_append (not_mem_escapeText _).1,
    withoutTags_tag (Tag.stop_isCompact (by decide)), withoutTags_tag (Tag.stop_isCompact (by decide))]
  exact List.append_nil _

/-- Folding cuts any lines into groups, one for each record, and the HTML of a code block shows its texts without
tags and references: the lines of a fenced group without its fences and without the indentation of the first one,
or the lines of an indented group without their own. A line that opens a fence stays raw only if no line after it
closes the fence. -/
theorem foldCode_folds (lines : List (List Char)) : Folds lines (foldCode lines) ∧
    ∀ language texts, unescape (withoutTags (Block.html (.code language texts))) = joinWith '\n' texts := by
  refine ⟨folds_foldCodeFrom true lines, fun language texts => ?_⟩
  rw [withoutTags_code, unescape_escapeText]

end PostMarkup.Markdown
