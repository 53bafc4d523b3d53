import PostMarkup.Layout
import PostMarkup.Proofs.Markup.Flow
import PostMarkup.Proofs.Markup.Forest

/-! # The shape of markup before and after layout

Before layout, lines of text and blocks follow one another, and the body of a block quote is of the
same kind. A line holds inline markup that is properly nested on its own. After layout no paragraph
holds a paragraph or a block, and line feeds stand in preformatted elements only.
-/

namespace PostMarkup

open PostMarkup.Text PostMarkup.Layout

def preName : List Char := "pre".toList

/-- Whether elements of a name are laid out as blocks. -/
def isBlockName (name : List Char) : Bool := blockElements.isNormal name || blockElements.isVoid name

/-- Whether a tag has no attributes. -/
def Tag.IsBare (tag : Tag) : Prop :=
  ∃ name space, name.all Char.isAlphanum = true ∧ space.all isBlank = true ∧
    tag.source = (if tag.closing then "</".toList else ['<']) ++ name ++ space ++ ['>']

/-- What a piece shows apart from blanks. -/
def Piece.visible : Piece → List Char
  | .tag _ => []
  | .char c => if isBlank c then [] else [c]

/-- The characters outside tags that are not blank. -/
def visibleText (markup : List Char) : List Char := (pieces markup).flatMap Piece.visible

@[simp] theorem visibleText_nil : visibleText [] = [] := by simp [visibleText]

/-- Whether layout knows the void elements: rules are void, and so are line breaks, while paragraphs and
other blocks are not. -/
structure KnowsVoids (voids : List (List Char)) : Prop where
  rule : ∀ listed ∈ blockElements.void, listed.toList ∈ voids
  block : ∀ listed ∈ blockElements.normal, listed.toList ∉ voids
  paragraph : paragraphName ∉ voids
  lineBreak : "br".toList ∈ voids

namespace ElementForest

/-- Whether there are neither paragraphs nor blocks among the elements of a forest. -/
def IsFree (forest : ElementForest) : Prop :=
  ∀ tag, .tag tag ∈ forest.pieces → tag.name ≠ paragraphName ∧ isBlockName tag.name = false

/-- Whether lines of text and blocks follow one another. An element that is no block stands on one line
and holds no paragraphs and blocks. A block quote has no attributes and is of the same kind inside, and
other blocks hold anything but paragraphs. -/
def IsFlow : ElementForest → Prop
  | nil => True
  | char _ rest => rest.IsFlow
  | void _ rest => rest.IsFlow
  | element first last body rest =>
    (if first.name = quoteName then first.IsBare ∧ last.IsBare ∧ body.IsFlow
      else if isBlockName first.name then ∀ tag, .tag tag ∈ body.pieces → tag.name ≠ paragraphName
      else first.name ≠ paragraphName ∧ body.IsFree ∧ .char '\n' ∉ body.pieces) ∧ rest.IsFlow

/-- Markup before layout: lines and blocks in flow, properly nested, without line feeds in tags. -/
structure IsUnlaid (voids : List (List Char)) (forest : ElementForest) : Prop where
  nested : forest.IsNested voids
  written : ∀ part ∈ forest.pieces, part.IsWritten
  line : ∀ tag, .tag tag ∈ forest.pieces → '\n' ∉ tag.source
  flow : forest.IsFlow

/-- Whether no paragraph holds a paragraph or a block. -/
def IsFlat : ElementForest → Prop
  | nil => True
  | char _ rest => rest.IsFlat
  | void _ rest => rest.IsFlat
  | element first _ body rest => (first.name = paragraphName → body.IsFree) ∧ body.IsFlat ∧ rest.IsFlat

/-- Whether line feeds stand only in preformatted elements, and these in no elements but block quotes. -/
def LinesInPre : ElementForest → Prop
  | nil => True
  | char c rest => c ≠ '\n' ∧ rest.LinesInPre
  | void tag rest => '\n' ∉ tag.source ∧ rest.LinesInPre
  | element first last body rest =>
    (first.name = preName ∨ '\n' ∉ first.source ∧ '\n' ∉ last.source ∧
      if first.name = quoteName then body.LinesInPre else '\n' ∉ body.source) ∧ rest.LinesInPre

/-- The preformatted elements that stand in no elements but block quotes. -/
def preformatted : ElementForest → List (List Char)
  | nil => []
  | char _ rest => rest.preformatted
  | void _ rest => rest.preformatted
  | element first last body rest =>
    (if first.name = preName then [first.source ++ body.source ++ last.source]
      else if first.name = quoteName then body.preformatted else []) ++ rest.preformatted

/-- Markup after layout. -/
structure IsLaid (voids : List (List Char)) (forest : ElementForest) : Prop where
  nested : forest.IsNested voids
  written : ∀ part ∈ forest.pieces, part.IsWritten
  flat : forest.IsFlat
  lines : forest.LinesInPre

variable {voids : List (List Char)} {forest left right : ElementForest}

theorem visibleText_source (written : ∀ part ∈ forest.pieces, part.IsWritten) :
    visibleText forest.source = forest.pieces.flatMap Piece.visible := by
  rw [visibleText, pieces_source written]

/-- The visible text of markup whose tags are written, before anything. -/
theorem visibleText_source_append (written : ∀ part ∈ forest.pieces, part.IsWritten) (after : List Char) :
    visibleText (forest.source ++ after) = visibleText forest.source ++ visibleText after := by
  rw [visibleText_source written, visibleText, source, pieces_sourceOf_append written, List.flatMap_append,
    visibleText]

theorem written_element {first last : Tag} {body : ElementForest} :
    (∀ part ∈ (element first last body nil).pieces, part.IsWritten) ↔
      first.IsWritten ∧ (∀ part ∈ body.pieces, part.IsWritten) ∧ last.IsWritten := by
  rw [pieces, List.forall_mem_cons, List.forall_mem_append, pieces, List.forall_mem_singleton]
  rfl

/-- An element shows what its body shows. -/
theorem visibleText_element {first last : Tag} {body : ElementForest}
    (written : ∀ part ∈ (element first last body nil).pieces, part.IsWritten) :
    visibleText (element first last body nil).source = visibleText body.source := by
  rw [visibleText_source written, visibleText_source (written_element.mp written).2.1]
  simp [pieces, Piece.visible]

theorem isFree_nil : nil.IsFree := by simp [IsFree, pieces]

theorem isFree_char (c : Char) : (char c nil).IsFree := by simp [IsFree, pieces]

theorem forall_tag_append {kind : Tag → Prop} : (∀ tag, .tag tag ∈ (left ++ right).pieces → kind tag) ↔
    (∀ tag, .tag tag ∈ left.pieces → kind tag) ∧ ∀ tag, .tag tag ∈ right.pieces → kind tag := by
  simp only [pieces_append, List.mem_append, or_imp, forall_and]

theorem isFree_append : (left ++ right).IsFree ↔ left.IsFree ∧ right.IsFree := forall_tag_append

/-- Markup without paragraphs is flat. -/
theorem isFlat_of_forall_ne (none : ∀ tag, .tag tag ∈ forest.pieces → tag.name ≠ paragraphName) : forest.IsFlat := by
  induction forest with
  | nil => trivial
  | char c rest ih => exact ih fun tag member => none tag (List.mem_cons_of_mem _ member)
  | void tag rest ih => exact ih fun tag member => none tag (List.mem_cons_of_mem _ member)
  | element first last body rest ihBody ihRest =>
    refine ⟨fun paragraph => absurd paragraph (none first List.mem_cons_self), ihBody fun tag member => none tag ?_,
      ihRest fun tag member => none tag ?_⟩
    · simp [pieces, member]
    · simp [pieces, member]

/-- Markup without paragraphs and blocks is left in pieces. -/
theorem segments_of_isFree (free : forest.IsFree) : forest.segments blockElements = forest.pieces.map .plain := by
  have other {name : List Char} (free : isBlockName name = false) :
      ¬blockElements.isNormal name = true ∧ ¬blockElements.isVoid name = true := by
    simpa [isBlockName] using free
  induction forest with
  | nil => rfl
  | char c rest ih =>
    rw [segments, ih fun tag member => free tag (List.mem_cons_of_mem _ member)]
    rfl
  | void tag rest ih =>
    rw [segments, if_neg (other (free tag List.mem_cons_self).2).2,
      ih fun tag member => free tag (List.mem_cons_of_mem _ member)]
    rfl
  | element first last body rest ihBody ihRest =>
    rw [segments, if_neg (other (free first List.mem_cons_self).2).1, ihBody fun tag member => free tag ?_,
      ihRest fun tag member => free tag ?_]
    · simp [pieces]
    · simp [pieces, member]
    · simp [pieces, member]

theorem quoteName_isBlockName : isBlockName quoteName = true := by decide

theorem preName_isBlockName : isBlockName preName = true := by decide

/-- Markup without blocks has no preformatted elements. -/
theorem preformatted_of_isFree (free : forest.IsFree) : forest.preformatted = [] := by
  induction forest with
  | nil => rfl
  | char c rest ih => exact ih fun tag member => free tag (List.mem_cons_of_mem _ member)
  | void tag rest ih => exact ih fun tag member => free tag (List.mem_cons_of_mem _ member)
  | element first last body rest ihBody ihRest =>
    have block := (free first List.mem_cons_self).2
    have notPre : first.name ≠ preName := fun same => by simp [same, preName_isBlockName] at block
    have notQuote : first.name ≠ quoteName := fun same => by simp [same, quoteName_isBlockName] at block
    rw [preformatted, if_neg notPre, if_neg notQuote, List.nil_append]
    exact ihRest fun tag member => free tag (by simp [pieces, member])

theorem newline_not_mem_source (chars : .char '\n' ∉ forest.pieces)
    (tags : ∀ tag, .tag tag ∈ forest.pieces → '\n' ∉ tag.source) : '\n' ∉ forest.source := by
  intro member
  obtain ⟨part, listed, inside⟩ := List.mem_flatMap.mp member
  cases part with
  | char c => exact chars (List.mem_singleton.mp inside ▸ listed)
  | tag tag => exact tags tag listed inside

/-- Markup on one line has line feeds nowhere. -/
theorem linesInPre_of_line (line : '\n' ∉ forest.source) : forest.LinesInPre := by
  induction forest with
  | nil => trivial
  | char c rest ih =>
    simp only [source_char, List.mem_cons, not_or] at line
    exact ⟨Ne.symm line.1, ih line.2⟩
  | void tag rest ih =>
    simp only [source_void, List.mem_append, not_or] at line
    exact ⟨line.1, ih line.2⟩
  | element first last body rest ihBody ihRest =>
    simp only [source_element, List.mem_append, not_or] at line
    obtain ⟨opening, inside, closing, further⟩ := line
    refine ⟨.inr ⟨opening, closing, ?_⟩, ihRest further⟩
    split
    · exact ihBody inside
    · exact inside

theorem isFlow_append : (left ++ right).IsFlow ↔ left.IsFlow ∧ right.IsFlow := by
  induction left with
  | nil => simp [IsFlow]
  | char c rest ih => exact ih
  | void tag rest ih => exact ih
  | element first last body rest _ ih => simp only [element_append, IsFlow, ih, and_assoc]

theorem written_append : (∀ part ∈ (left ++ right).pieces, part.IsWritten) ↔
    (∀ part ∈ left.pieces, part.IsWritten) ∧ ∀ part ∈ right.pieces, part.IsWritten := by
  rw [pieces_append, List.forall_mem_append]

/-- Markup before layout may be cut between elements. -/
theorem isUnlaid_append : (left ++ right).IsUnlaid voids ↔ left.IsUnlaid voids ∧ right.IsUnlaid voids := by
  constructor
  · intro ⟨nested, written, lines, flow⟩
    obtain ⟨nested, nested'⟩ := isNested_append.mp nested
    obtain ⟨written, written'⟩ := written_append.mp written
    obtain ⟨lines, lines'⟩ := forall_tag_append.mp lines
    obtain ⟨flow, flow'⟩ := isFlow_append.mp flow
    exact ⟨⟨nested, written, lines, flow⟩, ⟨nested', written', lines', flow'⟩⟩
  · intro ⟨first, second⟩
    exact ⟨isNested_append.mpr ⟨first.nested, second.nested⟩, written_append.mpr ⟨first.written, second.written⟩,
      forall_tag_append.mpr ⟨first.line, second.line⟩, isFlow_append.mpr ⟨first.flow, second.flow⟩⟩

theorem IsFlat.append (first : left.IsFlat) (second : right.IsFlat) : (left ++ right).IsFlat := by
  induction left with
  | nil => exact second
  | char c rest ih => exact ih first
  | void tag rest ih => exact ih first
  | element opening closing body rest _ ih => exact ⟨first.1, first.2.1, ih first.2.2⟩

theorem LinesInPre.append (first : left.LinesInPre) (second : right.LinesInPre) : (left ++ right).LinesInPre := by
  induction left with
  | nil => exact second
  | char c rest ih => exact ⟨first.1, ih first.2⟩
  | void tag rest ih => exact ⟨first.1, ih first.2⟩
  | element opening closing body rest _ ih => exact ⟨first.1, ih first.2⟩

theorem IsLaid.append (first : left.IsLaid voids) (second : right.IsLaid voids) : (left ++ right).IsLaid voids where
  nested := isNested_append.mpr ⟨first.nested, second.nested⟩
  written := written_append.mpr ⟨first.written, second.written⟩
  flat := first.flat.append second.flat
  lines := first.lines.append second.lines

theorem preformatted_append (left right : ElementForest) :
    (left ++ right).preformatted = left.preformatted ++ right.preformatted := by
  induction left with
  | nil => rfl
  | char c rest ih => exact ih
  | void tag rest ih => exact ih
  | element first last body rest _ ih => simp only [element_append, preformatted, ih, List.append_assoc]

end ElementForest

/-- Whether a text is markup after layout with some preformatted elements and some visible text. -/
def IsLaidText (voids preformatted : List (List Char)) (visible text : List Char) : Prop :=
  ∃ forest : ElementForest, forest.source = text ∧ forest.IsLaid voids ∧ forest.preformatted = preformatted ∧
    visibleText text = visible

namespace IsLaidText

variable {voids kept kept' : List (List Char)} {shown shown' text text' : List Char}

theorem nil : IsLaidText voids [] [] [] :=
  ⟨.nil, rfl, ⟨trivial, by simp [ElementForest.pieces], trivial, trivial⟩, rfl, visibleText_nil⟩

theorem append (first : IsLaidText voids kept shown text) (second : IsLaidText voids kept' shown' text') :
    IsLaidText voids (kept ++ kept') (shown ++ shown') (text ++ text') := by
  obtain ⟨left, rfl, laid, rfl, rfl⟩ := first
  obtain ⟨right, rfl, laid', rfl, rfl⟩ := second
  exact ⟨left ++ right, ElementForest.source_append left right, laid.append laid',
    ElementForest.preformatted_append left right, ElementForest.visibleText_source_append laid.written _⟩

theorem flatMap {α : Type} {items : List α} {show' write : α → List Char}
    (each : ∀ item ∈ items, IsLaidText voids [] (show' item) (write item)) :
    IsLaidText voids [] (items.flatMap show') (items.flatMap write) := by
  induction items with
  | nil => exact nil
  | cons item rest ih =>
    obtain ⟨first, others⟩ := List.forall_mem_cons.mp each
    exact first.append (ih others)

end IsLaidText

end PostMarkup
