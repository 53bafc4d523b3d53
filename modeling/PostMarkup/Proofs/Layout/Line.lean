import PostMarkup.Proofs.Layout.Paragraph
import PostMarkup.Proofs.Layout.Shape

/-! # Lines of inline markup

Text between blocks consists of characters and of elements that stand on one line each. Cutting it at
its line feeds cuts no element, so every line is properly nested on its own, and the paragraphs that lines
are joined to show what the text shows.
-/

namespace PostMarkup

open PostMarkup.Text PostMarkup.Layout

structure ElementForest.IsLine (voids : List (List Char)) (forest : ElementForest) : Prop where
  nested : forest.IsNested voids
  written : ∀ part ∈ forest.pieces, part.IsWritten
  free : forest.IsFree
  line : '\n' ∉ forest.source

def IsInlineText (voids : List (List Char)) (text : List Char) : Prop :=
  ∃ forest : ElementForest, forest.source = text ∧ forest.IsLine voids

variable {voids : List (List Char)} {front rest text : List Char} {forest : ElementForest}

namespace IsInlineText

theorem append (first : IsInlineText voids front) (second : IsInlineText voids rest) :
    IsInlineText voids (front ++ rest) := by
  obtain ⟨left, rfl, nested, written, free, line⟩ := first
  obtain ⟨right, rfl, nested', written', free', line'⟩ := second
  refine ⟨left ++ right, ElementForest.source_append left right, ElementForest.isNested_append.mpr ⟨nested, nested'⟩,
    ElementForest.written_append.mpr ⟨written, written'⟩, ElementForest.isFree_append.mpr ⟨free, free'⟩, ?_⟩
  rw [ElementForest.source_append]
  exact List.not_mem_append line line'

theorem nil : IsInlineText voids [] := by
  refine ⟨.nil, rfl, trivial, ?_, ElementForest.isFree_nil, ?_⟩
  all_goals simp [ElementForest.pieces]

theorem visibleText_append (inline : IsInlineText voids front) (after : List Char) :
    visibleText (front ++ after) = visibleText front ++ visibleText after := by
  obtain ⟨forest, rfl, isLine⟩ := inline
  exact ElementForest.visibleText_source_append isLine.written after

end IsInlineText

theorem visibleText_of_isBlank {c : Char} (blank : isBlank c = true) (rest : List Char) :
    visibleText (c :: rest) = visibleText rest := by
  have differs : c ≠ '<' := by
    rintro rfl
    exact absurd blank (by decide)
  rw [visibleText, pieces_of_ne differs, List.flatMap_cons, Piece.visible, if_pos blank, List.nil_append, visibleText]

/-- A blank line shows nothing. -/
theorem visibleText_of_isBlankLine (blank : isBlankLine text = true) : visibleText text = [] := by
  induction text with
  | nil => exact visibleText_nil
  | cons c rest ih =>
    simp only [isBlankLine, List.all_cons, Bool.and_eq_true] at blank
    rw [visibleText_of_isBlank blank.1, ih blank.2]

namespace Layout

/-- Whether the lines of a text are inline markup and show together what the text shows. -/
structure HasInlineLines (voids : List (List Char)) (text : List Char) : Prop where
  each : ∀ line ∈ linesOf text, IsInlineText voids line
  visible : (linesOf text).flatMap visibleText = visibleText text

namespace HasInlineLines

theorem nil : HasInlineLines voids [] := by
  constructor
  · rw [linesOf_nil]
    exact List.forall_mem_singleton.mpr .nil
  · rw [linesOf_nil, List.flatMap_singleton]

/-- Inline markup on one line belongs to the first line of what follows. -/
theorem prepend (inline : IsInlineText voids front) (later : HasInlineLines voids rest)
    (apart : ¬(front.getLast? = some '\r' ∧ rest.head? = some '\n')) : HasInlineLines voids (front ++ rest) := by
  have line : '\n' ∉ front := by
    obtain ⟨_, rfl, isLine⟩ := inline
    exact isLine.line
  obtain ⟨first, others, found, grown⟩ := linesOf_append line apart
  obtain ⟨each, visible⟩ := later
  rw [found] at each visible
  obtain ⟨head, further⟩ := List.forall_mem_cons.mp each
  constructor
  · rw [grown]
    exact List.forall_mem_cons.mpr ⟨inline.append head, further⟩
  · rw [grown, List.flatMap_cons, inline.visibleText_append, List.append_assoc, ← List.flatMap_cons, visible,
      inline.visibleText_append]

theorem newline (later : HasInlineLines voids rest) : HasInlineLines voids ('\n' :: rest) where
  each := by
    rw [linesOf_newline]
    exact List.forall_mem_cons.mpr ⟨.nil, later.each⟩
  visible := by
    rw [linesOf_newline, List.flatMap_cons, later.visible, visibleText_of_isBlankLine rfl, List.nil_append,
      visibleText_of_isBlank (by decide)]

theorem lineEnd (later : HasInlineLines voids ('\n' :: rest)) : HasInlineLines voids ('\r' :: '\n' :: rest) where
  each := by
    rw [linesOf_return]
    exact later.each
  visible := by
    have hidden : isBlank '\r' = true := by decide
    rw [linesOf_return, later.visible, visibleText_of_isBlank hidden]

theorem char {c : Char} (differs : c ≠ '<') (later : HasInlineLines voids rest) : HasInlineLines voids (c :: rest) := by
  by_cases newline : c = '\n'
  · exact newline ▸ later.newline
  by_cases lineEnd : c = '\r' ∧ rest.head? = some '\n'
  · obtain ⟨rfl, head⟩ := lineEnd
    obtain ⟨more, rfl⟩ := List.head?_eq_some_iff.mp head
    exact later.lineEnd
  · have inline : IsInlineText voids [c] := by
      refine ⟨.char c .nil, rfl, trivial, ?_, ?_, ?_⟩
      · exact List.forall_mem_singleton.mpr differs
      · exact ElementForest.isFree_char c
      · simpa using Ne.symm newline
    exact prepend inline later (by simpa using lineEnd)

end HasInlineLines

end Layout

namespace ElementForest

/-- Markup in front that stands on one line and ends in a tag. -/
theorem hasInlineLines_append {front back : ElementForest} (unlaid : (front ++ back).IsUnlaid voids)
    (free : (front ++ back).IsFree) (line : '\n' ∉ front.source) (last : front.source.getLast? = some '>')
    (later : back.IsUnlaid voids → back.IsFree → HasInlineLines voids back.source) :
    HasInlineLines voids (front ++ back).source := by
  obtain ⟨before, after⟩ := isUnlaid_append.mp unlaid
  obtain ⟨free, free'⟩ := isFree_append.mp free
  rw [source_append]
  exact .prepend ⟨front, rfl, before.nested, before.written, free, line⟩ (later after free') (by simp [last])

/-- The lines of markup without paragraphs and blocks are inline markup. -/
theorem hasInlineLines_source (unlaid : forest.IsUnlaid voids) (free : forest.IsFree) :
    HasInlineLines voids forest.source := by
  induction forest with
  | nil => exact .nil
  | char c rest ih =>
    rw [← nil_append rest, ← char_append] at unlaid free
    obtain ⟨first, later⟩ := isUnlaid_append.mp unlaid
    have differs : c ≠ '<' := first.written (.char c) List.mem_cons_self
    exact (ih later (isFree_append.mp free).2).char differs
  | void tag rest ih =>
    have line := unlaid.line tag List.mem_cons_self
    have last := Tag.IsWritten.getLast?_source (unlaid.written (.tag tag) List.mem_cons_self)
    have unlaid' : (void tag nil ++ rest).IsUnlaid voids := unlaid
    exact hasInlineLines_append unlaid' free (by simpa using line) (by simpa using last) ih
  | element opening closing body rest _ ih =>
    have unlaid' : (element opening closing body nil ++ rest).IsUnlaid voids := unlaid
    obtain ⟨whole, _⟩ := isUnlaid_append.mp unlaid'
    have written : closing.IsWritten := whole.written (.tag closing) (by simp [pieces])
    apply hasInlineLines_append unlaid' free _ _ ih
    · apply newline_not_mem_source _ whole.line
      obtain ⟨notParagraph, notBlock⟩ := free opening List.mem_cons_self
      have notQuote : opening.name ≠ quoteName := fun same => by simp [same, quoteName_isBlockName] at notBlock
      have flow := unlaid.flow.1
      rw [if_neg notQuote, if_neg (by simp [notBlock])] at flow
      simpa [pieces] using flow.2.2
    · simp [List.getLast?_append, written.getLast?_source]

end ElementForest

namespace Layout

theorem isInlineText_lineBreak (knows : KnowsVoids voids) : IsInlineText voids lineBreak := by
  have source : (Tag.single "br".toList []).source = lineBreak := by decide
  have written : (Tag.single "br".toList []).IsWritten := Tag.single_isWritten (by decide) (by simp)
  refine ⟨.void (Tag.single "br".toList []) .nil, ?_, ⟨rfl, knows.lineBreak, trivial⟩, ?_, ?_, ?_⟩
  · rw [ElementForest.source_void, source, ElementForest.source_nil, List.append_nil]
  · exact List.forall_mem_singleton.mpr written
  · intro tag member
    obtain rfl : tag = Tag.single "br".toList [] := by simpa [ElementForest.pieces] using member
    decide
  · decide

theorem visibleText_lineBreak : visibleText lineBreak = [] := by
  have source : lineBreak = (Tag.single "br".toList []).source ++ [] := by decide
  have written : (Tag.single "br".toList []).IsWritten := Tag.single_isWritten (by decide) (by simp)
  rw [source, visibleText, pieces_of_isWritten written, pieces_nil]
  rfl

/-- Lines that are joined are inline markup and show what the lines show. -/
theorem isInlineText_joinLines (knows : KnowsVoids voids) {lines : List (List Char)}
    (each : ∀ line ∈ lines, IsInlineText voids line) :
    IsInlineText voids (joinLines lines) ∧ visibleText (joinLines lines) = lines.flatMap visibleText := by
  fun_induction joinLines lines with
  | case1 => exact ⟨.nil, visibleText_nil⟩
  | case2 line => simpa using each
  | case3 line next rest ih =>
    obtain ⟨first, others⟩ := List.forall_mem_cons.mp each
    obtain ⟨inline, visible⟩ := ih others
    have broken : IsInlineText voids (if lineBreak.isSuffixOf line then [] else lineBreak) ∧
        visibleText (if lineBreak.isSuffixOf line then [] else lineBreak) = [] := by
      split
      · exact ⟨.nil, visibleText_nil⟩
      · exact ⟨isInlineText_lineBreak knows, visibleText_lineBreak⟩
    refine ⟨(first.append broken.1).append inline, ?_⟩
    rw [(first.append broken.1).visibleText_append, first.visibleText_append, broken.2, List.append_nil, visible,
      ← List.flatMap_cons]

/-- Inline markup in a paragraph. -/
theorem isLaidText_paragraph (knows : KnowsVoids voids) (inline : IsInlineText voids text) :
    IsLaidText voids [] (visibleText text) ("<p>".toList ++ text ++ "</p>".toList) := by
  obtain ⟨forest, rfl, line⟩ := inline
  have first : (Tag.opening paragraphName []).IsWritten := Tag.opening_isWritten (by decide) (by simp)
  have last : (Tag.stop paragraphName).IsWritten := Tag.stop_isWritten (by decide)
  let whole : ElementForest := .element (Tag.opening paragraphName []) (Tag.stop paragraphName) forest .nil
  have source : whole.source = "<p>".toList ++ forest.source ++ "</p>".toList := by
    rw [paragraph_eq, ElementForest.source_element, ElementForest.source_nil, List.append_nil]
  have written : ∀ part ∈ whole.pieces, part.IsWritten :=
    ElementForest.written_element.mpr ⟨first, line.written, last⟩
  have flat : forest.IsFlat := forest.isFlat_of_forall_ne fun tag member => (line.free tag member).1
  refine ⟨whole, source, ⟨?_, written, ⟨fun _ => line.free, flat, trivial⟩, ?_⟩, rfl, ?_⟩
  · exact ⟨⟨rfl, by decide, knows.paragraph⟩, ⟨rfl, rfl⟩, line.nested, trivial⟩
  · exact ⟨.inr ⟨by decide, by decide, line.line⟩, trivial⟩
  · rw [← source, ElementForest.visibleText_element written]

/-- Paragraphs show what their lines show: the lines between them are blank. -/
theorem visibleText_paragraphs (lines : List (List Char)) :
    (paragraphs lines).flatMap (List.flatMap visibleText) = lines.flatMap visibleText := by
  have shown (line : List Char) (blank : (!isBlankLine line) = false) : visibleText line = [] :=
    visibleText_of_isBlankLine (by simpa using blank)
  rw [← flatMap_filter shown, ← flatten_paragraphs, ← List.flatMap_id, List.flatMap_assoc]
  rfl

/-- Text between blocks becomes paragraphs that show what it shows. -/
theorem isLaidText_wrap (knows : KnowsVoids voids) (has : HasInlineLines voids text) :
    IsLaidText voids [] (visibleText text) (wrap text) := by
  rw [← has.visible, ← visibleText_paragraphs]
  apply IsLaidText.flatMap
  intro lines member
  obtain ⟨inline, visible⟩ := isInlineText_joinLines knows fun line inside =>
    has.each line (mem_of_mem_paragraphs member inside)
  rw [← visible]
  exact isLaidText_paragraph knows inline

end Layout

end PostMarkup
