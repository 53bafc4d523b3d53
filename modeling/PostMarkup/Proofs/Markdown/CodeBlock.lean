import Mathlib.Data.List.Forall2
import PostMarkup.Markdown.CodeBlock

/-! # The lines that a code block takes

A fenced block takes the lines up to the first one that closes it. An indented block takes indented lines and
the blank lines between them, and it gives back the blank lines after the last indented one. Both readers are
described here by the lines they take and the lines they leave.
-/

namespace PostMarkup.Markdown

open PostMarkup.Text

variable {fence : Fence} {afterBlank : Bool} {block : Block} {line : List Char}
  {lines rest after texts blanks : List (List Char)}

theorem Fence.body?_eq_some_iff : fence.body? lines = some (texts, after) ↔
    ∃ body closer, lines = body ++ closer :: after ∧ (∀ line ∈ body, fence.closedBy line = false) ∧
      fence.closedBy closer = true ∧ texts = body.map (dropSpaces fence.indent) := by
  induction lines generalizing texts with
  | nil => simp [body?]
  | cons first rest ih =>
    rw [body?]
    cases closed : fence.closedBy first with
    | true =>
      rw [if_pos rfl]
      constructor
      · intro found
        cases found
        exact ⟨[], first, rfl, by simp, closed, rfl⟩
      · rintro ⟨body, closer, same, unclosed, -, rfl⟩
        cases body with
        | nil =>
          cases same
          rfl
        | cons line others =>
          cases same
          exact absurd closed (by simp [unclosed first List.mem_cons_self])
    | false =>
      rw [if_neg Bool.false_ne_true, Option.map_eq_some_iff]
      constructor
      · rintro ⟨⟨inner, beyond⟩, found, same⟩
        cases same
        obtain ⟨body, closer, rfl, unclosed, closes, rfl⟩ := ih.mp found
        exact ⟨first :: body, closer, rfl, List.forall_mem_cons.mpr ⟨closed, unclosed⟩, closes, rfl⟩
      · rintro ⟨body, closer, same, unclosed, closes, rfl⟩
        cases body with
        | nil =>
          cases same
          exact absurd closes (by simp [closed])
        | cons line others =>
          cases same
          have later := (List.forall_mem_cons.mp unclosed).2
          exact ⟨_, ih.mpr ⟨others, closer, rfl, later, closes, rfl⟩, rfl⟩

theorem Fence.body?_eq_none_iff : fence.body? lines = none ↔ ∀ line ∈ lines, fence.closedBy line = false := by
  induction lines with
  | nil => simp [body?]
  | cons first rest ih =>
    rw [body?, List.forall_mem_cons, ← ih]
    cases fence.closedBy first <;> simp

/-- Whether a line of an indented block stands for a text: a blank line for an empty one, and any other line for
what follows its tab or its four spaces. -/
def IsCodeText (line text : List Char) : Prop :=
  if isBlankLine line then text = [] else line = '\t' :: text ∨ line = "    ".toList ++ text

theorem dropCodeIndent?_eq_some_iff {text : List Char} :
    dropCodeIndent? line = some text ↔ line = '\t' :: text ∨ line = "    ".toList ++ text := by
  fun_cases dropCodeIndent? line with
  | case1 => simp
  | case2 => simp
  | case3 _ noTab noSpaces =>
    simp only [reduceCtorEq, false_iff, not_or]
    exact ⟨noTab text, noSpaces text⟩

theorem isCodeText_of_filled {text : List Char} (filled : isBlankLine line = false)
    (indented : dropCodeIndent? line = some text) : IsCodeText line text := by
  rw [IsCodeText, if_neg (by simp [filled])]
  exact dropCodeIndent?_eq_some_iff.mp indented

/-- Blank lines stand for empty texts. -/
theorem forall₂_isCodeText_blanks (blank : ∀ line ∈ blanks, isBlankLine line = true) :
    List.Forall₂ IsCodeText blanks.reverse (blanks.map fun _ => []) := by
  rw [List.map_const', ← List.length_reverse, ← List.map_const', List.forall₂_map_right_iff, List.forall₂_same]
  intro line member
  rw [IsCodeText, if_pos (blank line (List.mem_reverse.mp member))]

/-- The lines of an indented block come before the lines that are left, and no blank line is the last of them. -/
theorem exists_of_indentedLines (blank : ∀ line ∈ blanks, isBlankLine line = true)
    (found : indentedLines blanks lines = (texts, after)) :
    ∃ group, blanks.reverse ++ lines = group ++ after ∧ List.Forall₂ IsCodeText group texts ∧
      ∀ line ∈ group.getLast?, isBlankLine line = false := by
  fun_induction indentedLines blanks lines generalizing texts with
  | case1 blanks =>
    cases found
    exact ⟨[], by simp, .nil, by simp⟩
  | case2 blanks first rest isBlank ih =>
    obtain ⟨group, whole, stands, ends⟩ := ih (List.forall_mem_cons.mpr ⟨isBlank, blank⟩) found
    exact ⟨group, by rw [← whole]; simp, stands, ends⟩
  | case3 blanks first rest filled content indented body beyond later ih =>
    cases found
    obtain ⟨group, whole, stands, ends⟩ := ih (by simp) later
    have filled : isBlankLine first = false := by simpa using filled
    refine ⟨blanks.reverse ++ first :: group, ?_, ?_, ?_⟩
    · rw [List.append_assoc, List.cons_append, ← whole, List.reverse_nil, List.nil_append]
    · exact List.rel_append (forall₂_isCodeText_blanks blank) (.cons (isCodeText_of_filled filled indented) stands)
    · rw [List.getLast?_append_of_ne_nil _ (List.cons_ne_nil _ _)]
      cases group with
      | nil => simpa using filled
      | cons next others => simpa [List.getLast?_cons_cons] using ends
  | case4 blanks first rest filled unindented =>
    cases found
    exact ⟨[], by simp, .nil, by simp⟩

/-- The lines of an indented block start and end in lines that are not blank. -/
theorem exists_of_indentedBlock? (found : indentedBlock? line rest = some (texts, after)) :
    ∃ others, rest = others ++ after ∧ List.Forall₂ IsCodeText (line :: others) texts ∧ isBlankLine line = false ∧
      ∀ last ∈ (line :: others).getLast?, isBlankLine last = false := by
  unfold indentedBlock? at found
  split at found
  · cases found
  · rename_i filled
    have filled : isBlankLine line = false := by simpa using filled
    obtain ⟨content, indented, same⟩ := Option.map_eq_some_iff.mp found
    cases same
    have taken : indentedLines [] rest = ((indentedLines [] rest).1, (indentedLines [] rest).2) := rfl
    obtain ⟨others, whole, stands, ends⟩ := exists_of_indentedLines (by simp) taken
    refine ⟨others, whole, .cons (isCodeText_of_filled filled indented) stands, filled, ?_⟩
    cases others with
    | nil => simpa using filled
    | cons next more => simpa [List.getLast?_cons_cons] using ends

theorem fencedBlock?_eq_some_iff : fencedBlock? line rest = some (block, after) ↔
    ∃ fence texts, Fence.read? line = some fence ∧ fence.body? rest = some (texts, after) ∧
      block = .code fence.language texts := by
  simp only [fencedBlock?, Option.bind_eq_bind, Option.bind_eq_some_iff, Option.pure_def, Option.some.injEq,
    Prod.mk.injEq, Prod.exists]
  constructor
  · rintro ⟨fence, read, texts, _, found, rfl, rfl⟩
    exact ⟨fence, texts, read, found, rfl⟩
  · rintro ⟨fence, texts, read, found, rfl⟩
    exact ⟨fence, read, texts, after, found, rfl, rfl⟩

/-- A code block is fenced or indented. -/
theorem cases_of_codeBlock? (found : codeBlock? afterBlank line rest = some (block, after)) :
    (∃ fence texts, Fence.read? line = some fence ∧ fence.body? rest = some (texts, after) ∧
      block = .code fence.language texts) ∨
    ∃ texts, indentedBlock? line rest = some (texts, after) ∧ block = .code none texts := by
  unfold codeBlock? at found
  split at found
  · rename_i fenced
    exact .inl (fencedBlock?_eq_some_iff.mp (fenced.trans found))
  · split at found
    · obtain ⟨⟨texts, beyond⟩, indented, same⟩ := Option.map_eq_some_iff.mp found
      cases same
      exact .inr ⟨texts, indented, rfl⟩
    · cases found

/-- Where no code block starts, no line closes a fence that stands there. -/
theorem unclosed_of_codeBlock? (none : codeBlock? afterBlank line rest = none) (read : Fence.read? line = some fence) :
    ∀ later ∈ rest, fence.closedBy later = false := by
  rw [← Fence.body?_eq_none_iff, Option.eq_none_iff_forall_ne_some]
  rintro ⟨texts, after⟩ found
  have fenced : fencedBlock? line rest = some (.code fence.language texts, after) :=
    fencedBlock?_eq_some_iff.mpr ⟨fence, texts, read, found, rfl⟩
  simp [codeBlock?, fenced] at none

/-- A code block leaves the end of the lines that follow its first one. -/
theorem isEnd_of_codeBlock? (found : codeBlock? afterBlank line rest = some (block, after)) : after <:+ rest := by
  rcases cases_of_codeBlock? found with ⟨fence, texts, -, closed, -⟩ | ⟨texts, indented, -⟩
  · obtain ⟨body, closer, rfl, -⟩ := Fence.body?_eq_some_iff.mp closed
    exact ⟨body ++ [closer], by simp⟩
  · obtain ⟨others, rfl, -⟩ := exists_of_indentedBlock? indented
    exact List.suffix_append ..

end PostMarkup.Markdown
