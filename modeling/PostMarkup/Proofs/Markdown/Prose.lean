import PostMarkup.Markdown.Document
import PostMarkup.Proofs.Markdown.Atom
import PostMarkup.Proofs.Markdown.Sound

/-! # Prose

A line is read as nothing but a line of text if its first character is neither blank nor a digit nor the mark
of a block. In text without the characters of inline markup every construct but a bare address declines, and
an address is shown as it is written. So prose, whatever addresses and however many lines it has, is only
escaped.
-/

namespace PostMarkup.Markdown

open PostMarkup.Text PostMarkup.Unicode

/-- The marks with which blocks and underlines of headings start. -/
def blockMarks : List Char := ['\x60', '~', '>', '#', '*', '+', '-', '_', '=']

/-- Whether a line starts no block: it is empty or starts with a character that is neither blank nor a digit
nor a mark. -/
def StartsNoBlock (line : List Char) : Prop :=
  ∀ c ∈ line.head?, isBlank c = false ∧ c.isDigit = false ∧ c ∉ blockMarks

namespace StartsNoBlock

variable {line : List Char} {c : Char} {rest : List Char}

/-- The first character of such a line is no space, no tab and no mark. -/
theorem first_ne (plain : StartsNoBlock (c :: rest)) : (c ≠ ' ' ∧ c ≠ '\t' ∧ c ≠ wideSpace) ∧ c ≠ '\x60' ∧ c ≠ '~' ∧
    c ≠ '>' ∧ c ≠ '#' ∧ c ≠ '*' ∧ c ≠ '+' ∧ c ≠ '-' ∧ c ≠ '_' ∧ c ≠ '=' := by
  obtain ⟨unblank, -, unmarked⟩ := plain c rfl
  constructor
  · have spaces : ∀ space ∈ [' ', '\t', wideSpace], isBlank space = true := by decide
    have other : ∀ space ∈ [' ', '\t', wideSpace], c ≠ space := by
      rintro space listed rfl
      exact Bool.false_ne_true (unblank.symm.trans (spaces c listed))
    simpa using other
  · simpa [blockMarks] using unmarked

/-- Such a line is not indented. -/
theorem dropIndent?_eq (plain : StartsNoBlock line) (columns : Nat) : dropIndent? columns line = some line := by
  cases line with
  | nil => cases columns <;> rfl
  | cons c rest => cases columns <;> simp [dropIndent?, plain.first_ne]

theorem fence_eq_none (plain : StartsNoBlock line) : Fence.read? line = none := by
  simp only [Fence.read?, plain.dropIndent?_eq, Option.bind_eq_bind, Option.bind_some]
  cases line with
  | nil => rfl
  | cons c rest => simp [plain.first_ne]

theorem indentedBlock?_eq_none (plain : StartsNoBlock line) (lines : List (List Char)) :
    indentedBlock? line lines = none := by
  have unindented : dropCodeIndent? line = none := by
    unfold dropCodeIndent?
    split
    · exact absurd rfl plain.first_ne.1.2.1
    · exact absurd rfl plain.first_ne.1.1
    · rfl
  simp [indentedBlock?, unindented]

theorem codeBlock?_eq_none (plain : StartsNoBlock line) (afterBlank : Bool) (lines : List (List Char)) :
    codeBlock? afterBlank line lines = none := by
  simp [codeBlock?, fencedBlock?, plain.fence_eq_none, plain.indentedBlock?_eq_none]

theorem dropQuoteMarker?_eq_none (plain : StartsNoBlock line) : dropQuoteMarker? line = none := by
  unfold dropQuoteMarker?
  split
  · simpa using plain.first_ne
  · simpa using plain.first_ne
  · rfl

theorem isRule_eq_false (plain : StartsNoBlock line) : isRule line = false := by
  rw [isRule, plain.dropIndent?_eq, Option.any_some]
  cases line with
  | nil => rfl
  | cons c rest =>
    have spacing : isSpaceOrTab c = false := by simp [isSpaceOrTab, plain.first_ne]
    simp [spacing, plain.first_ne]

theorem heading?_eq_none (plain : StartsNoBlock line) : heading? line = none := by
  simp only [heading?, plain.dropIndent?_eq, Option.bind_eq_bind, Option.bind_some]
  cases line with
  | nil => rfl
  | cons c rest => simp [plain.first_ne]

theorem underlineLevel?_eq_none (plain : StartsNoBlock line) : underlineLevel? line = none := by
  simp only [underlineLevel?, plain.dropIndent?_eq, Option.bind_eq_bind, Option.bind_some]
  apply Option.bind_eq_none_iff.mpr
  intro marker first
  obtain ⟨others, underline⟩ := List.head?_eq_some_iff.mp first
  obtain ⟨more, whole⟩ := dropEndWhile_isStart isSpaceOrTab line
  -- the underline starts with the first character of the line
  rw [underline, List.cons_append] at whole
  subst whole
  simp [plain.first_ne]

theorem item_eq_none (plain : StartsNoBlock line) : Item.read? line = none := by
  cases line with
  | nil => rfl
  | cons c rest =>
    have unspaced : Item.isSpacing c = false := by simp [Item.isSpacing, plain.first_ne]
    have unnumbered : c.isDigit = false := (plain c rfl).2.1
    have unmarked : Item.readMarker? (c :: rest) = none := by
      simp [Item.readMarker?, unnumbered, plain.first_ne]
    simp [Item.read?, unspaced, unmarked]

end StartsNoBlock

section Document

variable {line : List Char} {lines : List (List Char)}

theorem foldCode_of_startsNoBlock (plain : ∀ line ∈ lines, StartsNoBlock line) : foldCode lines = lines.map .raw := by
  have folded (afterBlank : Bool) : foldCodeFrom afterBlank lines = lines.map .raw := by
    induction lines generalizing afterBlank with
    | nil => simp [foldCodeFrom]
    | cons line rest ih =>
      obtain ⟨first, further⟩ := List.forall_mem_cons.mp plain
      rw [foldCodeFrom]
      split
      · rename_i found
        exact absurd found (by simp [first.codeBlock?_eq_none])
      · rw [ih further, List.map_cons]
  exact folded true

theorem markAllQuotes_of_startsNoBlock (plain : ∀ line ∈ lines, StartsNoBlock line) :
    markAllQuotes (lines.map .raw) = lines.map .raw := by
  rw [markAllQuotes, if_neg]
  simpa [Line.quoted?, Line.raw?] using fun line member => (plain line member).dropQuoteMarker?_eq_none

/-- A line among such lines is read as text. -/
theorem readBlock_of_startsNoBlock (plain : StartsNoBlock line) (further : ∀ line ∈ lines, StartsNoBlock line)
    (unbroken : cutHardBreak lines.isEmpty line = (line, false)) :
    readBlock line (lines.map .raw) = (.line (inlines line) false, lines.map .raw) := by
  have underlined : underlined? line (lines.map .raw) = none := by
    cases lines with
    | nil => rfl
    | cons next after => simp [underlined?, (further next List.mem_cons_self).underlineLevel?_eq_none]
  have outline : outline? line (lines.map .raw) = none := by simp [outline?, plain.item_eq_none]
  simp [readBlock, underlined, plain.isRule_eq_false, plain.heading?_eq_none, outline, unbroken]

/-- Whether a line ends with the two spaces that stand for a line break. -/
def EndsWithBreak (line : List Char) : Prop := [' ', ' '] <:+ line ∨ [wideSpace, wideSpace] <:+ line

instance (line : List Char) : Decidable (EndsWithBreak line) := inferInstanceAs (Decidable (_ ∨ _))

theorem cutHardBreak_eq {isLast : Bool} (unbroken : isLast = true ∨ ¬EndsWithBreak line) :
    cutHardBreak isLast line = (line, false) := by
  rw [cutHardBreak, if_neg]
  rcases unbroken with rfl | unbroken
  · simp
  · simpa [EndsWithBreak, List.isSuffixOf_iff_suffix] using fun _ => unbroken

theorem readBlocks_of_startsNoBlock (plain : ∀ line ∈ lines, StartsNoBlock line)
    (unbroken : ∀ line ∈ lines.dropLast, ¬EndsWithBreak line) :
    readBlocks (lines.map .raw) = lines.map fun line => .line (inlines line) false := by
  induction lines with
  | nil => simp [readBlocks]
  | cons line rest ih =>
    obtain ⟨first, further⟩ := List.forall_mem_cons.mp plain
    have kept : rest.isEmpty = true ∨ ¬EndsWithBreak line := by
      cases rest with
      | nil => exact .inl rfl
      | cons next after => exact .inr (unbroken line List.mem_cons_self)
    have unbroken' : ∀ line ∈ rest.dropLast, ¬EndsWithBreak line := by
      cases rest with
      | nil => simp
      | cons next after => exact fun line member => unbroken line (List.mem_cons_of_mem _ member)
    rw [List.map_cons, readBlocks, readBlock_of_startsNoBlock first further (cutHardBreak_eq kept),
      ih further unbroken', List.map_cons]

/-- A document of such lines is read line by line. -/
theorem readDocument_of_startsNoBlock {text : List Char} (plain : ∀ line ∈ Text.lines text, StartsNoBlock line)
    (unbroken : ∀ line ∈ (Text.lines text).dropLast, ¬EndsWithBreak line) :
    readDocument text = (Text.lines text).map fun line => .line (inlines line) false := by
  rw [readDocument, foldCode_of_startsNoBlock plain, markAllQuotes_of_startsNoBlock plain,
    readBlocks_of_startsNoBlock plain unbroken]

end Document

section Unmarked

variable {c : Char} {rest text : List Char}

/-- The characters with which inline markup starts. -/
def inlineMarks : List Char := "\\\x60[*_~+=^".toList

/-- Where no inline markup starts, a start of the text is shown as it is written. -/
theorem step_unmarked (previous : Option Char) (unmarked : ∀ d ∈ c :: rest, d ∉ inlineMarks) :
    ∃ others, others <+: rest ∧ step previous c rest = .whole (.text (c :: others)) (others.length + 1) := by
  cases address : bareAddress? previous (c :: rest) with
  | some written =>
    obtain ⟨filled, start⟩ := isStart_of_bareAddress? address
    obtain ⟨first, others, rfl⟩ := List.exists_cons_of_ne_nil filled
    obtain ⟨rfl, start'⟩ := List.cons_prefix_cons.mp start
    exact ⟨others, start', step_address address⟩
  | none =>
    obtain ⟨single, further⟩ := List.forall_mem_cons.mp unmarked
    have plain : c ∉ "\\\x60[".toList := fun special =>
      single ((by decide : ∀ special ∈ "\\\x60[".toList, special ∈ inlineMarks) c special)
    have noImage : c = '!' → rest.head? ≠ some '[' := fun _ bracket =>
      further '[' (List.mem_of_head? bracket) (by decide)
    have unstyled : styledStep? previous (c :: rest) = none := by
      refine styledStep?_of_ne fun delimiter known same => single ?_
      exact same ▸ (by decide : ∀ delimiter ∈ Delimiter.all, delimiter.marker ∈ inlineMarks) delimiter known
    refine ⟨[], List.nil_prefix, ?_⟩
    rw [step_of_plain plain noImage, address, unstyled]
    rfl

/-- Text without inline markup is only escaped, whatever addresses it has. -/
theorem htmlOf_inlinesFrom_unmarked (previous : Option Char) (unmarked : ∀ c ∈ text, c ∉ inlineMarks) :
    Inline.htmlOf (inlinesFrom previous text) = escapeText text := by
  induction size : text.length using Nat.strongRecOn generalizing previous text with
  | _ bound ih =>
    cases text with
    | nil => simp [inlinesFrom]
    | cons c rest =>
      obtain ⟨others, ⟨more, rfl⟩, read⟩ := step_unmarked previous unmarked
      have further : ∀ d ∈ more, d ∉ inlineMarks := fun d member =>
        unmarked d (List.mem_cons_of_mem _ (List.mem_append_right _ member))
      have shorter : more.length < bound := by
        rw [← size, List.length_cons, List.length_append]
        omega
      rw [inlinesFrom_whole read, Inline.htmlOf_cons, Inline.html, Nat.add_sub_cancel, List.drop_left,
        ih more.length shorter _ further rfl, ← escapeText_append, List.cons_append]

end Unmarked

/-- Whether a text without carriage returns holds no mark, starts no line with a blank, a digit or the mark of
a quote, and ends no line but the last with a line break. -/
structure IsProse (text : List Char) : Prop where
  returns : '\r' ∉ text
  unmarked : ∀ c ∈ text, c ∉ "\\\x60[*_~+=^#-".toList
  starts : ∀ line ∈ splitAt '\n' text, ∀ c ∈ line.head?, isBlank c = false ∧ c.isDigit = false ∧ c ≠ '>'
  ends : ∀ line ∈ (splitAt '\n' text).dropLast, ¬EndsWithBreak line

variable {text : List Char}

theorem html_line (content : List Inline) : (Block.line content false).html = Inline.htmlOf content :=
  List.append_nil _

theorem escapeText_joinWith (lines : List (List Char)) :
    escapeText (joinWith '\n' lines) = joinWith '\n' (lines.map escapeText) := by
  have newline : escapeChar '\n' = ['\n'] := by decide
  fun_induction joinWith '\n' lines with
  | case1 => rfl
  | case2 last => rfl
  | case3 first next others ih => simp [joinWith, newline, ih]

/-- Prose is only escaped, and once. -/
theorem render_of_isProse (prose : IsProse text) : render text = escapeText text := by
  have plain : ∀ line ∈ splitAt '\n' text, StartsNoBlock line := by
    intro line member c first
    obtain ⟨unblank, unnumbered, unquoted⟩ := prose.starts line member c first
    refine ⟨unblank, unnumbered, fun mark => ?_⟩
    have listed : ∀ mark ∈ blockMarks, mark = '>' ∨ mark ∈ "\\\x60[*_~+=^#-".toList := by decide
    have unmarked := prose.unmarked c (subset_of_mem_splitAt member (List.mem_of_head? first))
    exact (listed c mark).elim unquoted unmarked
  have shown : ∀ line ∈ splitAt '\n' text, (Block.line (inlines line) false).html = escapeText line := by
    intro line member
    have listed : ∀ mark ∈ inlineMarks, mark ∈ "\\\x60[*_~+=^#-".toList := by decide
    have unmarked : ∀ c ∈ line, c ∉ inlineMarks := fun c inside mark =>
      prose.unmarked c (subset_of_mem_splitAt member inside) (listed c mark)
    rw [html_line, inlines, htmlOf_inlinesFrom_unmarked none unmarked]
  have blocks : readDocument text = (splitAt '\n' text).map fun line => .line (inlines line) false := by
    have cut := lines_eq_splitAt prose.returns
    rw [← cut]
    exact readDocument_of_startsNoBlock (cut ▸ plain) (cut ▸ prose.ends)
  calc render text
      = joinWith '\n' ((splitAt '\n' text).map fun line => (Block.line (inlines line) false).html) := by
        rw [render, blocks, List.map_map]
        rfl
    _ = joinWith '\n' ((splitAt '\n' text).map escapeText) := by rw [List.map_congr_left shown]
    _ = escapeText text := by rw [← escapeText_joinWith, joinWith_splitAt]

/-- Three lines of prose with an address between angle brackets, an empty line and spaces at the end. -/
theorem render_of_isProse_lines : IsProse "A <http://b.c?d&e>\n\nf > 2  ".toList ∧
    render "A <http://b.c?d&e>\n\nf > 2  ".toList = escapeText "A <http://b.c?d&e>\n\nf > 2  ".toList := by
  have cut : splitAt '\n' "A <http://b.c?d&e>\n\nf > 2  ".toList =
      ['A' :: " <http://b.c?d&e>".toList, [], 'f' :: " > 2  ".toList] := by decide
  have prose : IsProse "A <http://b.c?d&e>\n\nf > 2  ".toList := by
    refine { returns := by decide, unmarked := by decide, starts := ?_, ends := by decide }
    simp only [cut, List.forall_mem_cons, List.not_mem_nil, List.head?_cons, List.head?_nil, Option.mem_some]
    refine ⟨?_, by simp, ?_, by simp⟩
    · rintro c rfl
      decide
    · rintro c rfl
      decide
  exact ⟨prose, render_of_isProse prose⟩

end PostMarkup.Markdown
