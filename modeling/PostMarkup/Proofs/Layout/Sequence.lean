import PostMarkup.Layout
import PostMarkup.Proofs.Markup.Forest
import PostMarkup.Proofs.Text.Lines

/-! # Laying out from left to right

Markup is laid out by a run over its segments. Text waits until a block or the end of the markup comes
and is then wrapped into paragraphs as a whole. `inParagraphs_eq_layOutFrom` states that this run does
what laying out block by block does, and `inParagraphs_source` that for properly nested markup it is a run
over the blocks of the forest.
-/

namespace PostMarkup.Layout

open PostMarkup.Text

def linesOf (text : List Char) : List (List Char) := splitAt '\n' (replaceAll ['\r', '\n'] ['\n'] text)

section Lines

variable {front rest : List Char} {kind : List Char → Prop}

theorem linesOf_nil : linesOf [] = [[]] := by simp [linesOf, replaceAll, splitAt]

theorem linesOf_newline (rest : List Char) : linesOf ('\n' :: rest) = [] :: linesOf rest := by
  rw [linesOf, replaceAll_of_ne (by decide), splitAt, if_pos rfl, linesOf]

theorem linesOf_return (rest : List Char) : linesOf ('\r' :: '\n' :: rest) = linesOf ('\n' :: rest) := by
  rw [linesOf, replaceAll_lineEnd_cons, if_pos ⟨rfl, rfl⟩, linesOf]

/-- Text on one line that no line end follows belongs to the first line. -/
theorem linesOf_append (line : '\n' ∉ front) (apart : ¬(front.getLast? = some '\r' ∧ rest.head? = some '\n')) :
    ∃ first others, linesOf rest = first :: others ∧ linesOf (front ++ rest) = (front ++ first) :: others := by
  rw [linesOf, linesOf, replaceAll_lineEnd_append apart, replaceAll_lineEnd_of_line line]
  exact splitAt_append line _

/-- Lines stay of a kind when text on one line is put in front. -/
theorem forall_mem_linesOf_append (line : '\n' ∉ front)
    (apart : ¬(front.getLast? = some '\r' ∧ rest.head? = some '\n'))
    (grows : ∀ first, kind first → kind (front ++ first)) (each : ∀ line ∈ linesOf rest, kind line) :
    ∀ line ∈ linesOf (front ++ rest), kind line := by
  obtain ⟨first, others, found, grown⟩ := linesOf_append line apart
  rw [found] at each
  obtain ⟨head, further⟩ := List.forall_mem_cons.mp each
  rw [grown]
  exact List.forall_mem_cons.mpr ⟨grows first head, further⟩

/-- Lines stay of a kind when a character is put in front, which may end a line. -/
theorem forall_mem_linesOf_cons {c : Char} (empty : kind []) (grows : c ≠ '\n' → ∀ first, kind first → kind (c :: first))
    (each : ∀ line ∈ linesOf rest, kind line) : ∀ line ∈ linesOf (c :: rest), kind line := by
  by_cases newline : c = '\n'
  · rw [newline, linesOf_newline]
    exact List.forall_mem_cons.mpr ⟨empty, each⟩
  by_cases lineEnd : c = '\r' ∧ rest.head? = some '\n'
  · obtain ⟨rfl, head⟩ := lineEnd
    obtain ⟨more, rfl⟩ := List.head?_eq_some_iff.mp head
    rwa [linesOf_return]
  · have clean : '\n' ∉ [c] := by simpa using Ne.symm newline
    exact forall_mem_linesOf_append clean (by simpa using lineEnd) (grows newline) each

end Lines

/-- The lines of paragraphs are lines of the text. -/
theorem mem_of_mem_paragraphs {lines paragraph : List (List Char)} {line : List Char}
    (member : paragraph ∈ paragraphs lines) (inside : line ∈ paragraph) : line ∈ lines := by
  fun_induction paragraphs lines generalizing paragraph with
  | case1 => simp at member
  | case2 single blank => simp at member
  | case3 single filled => simp_all
  | case4 first next rest blank ih => exact List.mem_cons_of_mem _ (ih member inside)
  | case5 first next rest filled blank ih =>
    rcases List.mem_cons.mp member with rfl | member
    · simp_all
    · exact List.mem_cons_of_mem _ (List.mem_cons_of_mem _ (ih member inside))
  | case6 first next rest filled filled' head others found ih =>
    rw [found] at ih
    rcases List.mem_cons.mp member with rfl | member
    · rcases List.mem_cons.mp inside with rfl | inside
      · exact List.mem_cons_self
      · exact List.mem_cons_of_mem _ (ih List.mem_cons_self inside)
    · exact List.mem_cons_of_mem _ (ih (List.mem_cons_of_mem _ member) inside)
  | case7 first next rest filled filled' none ih =>
    simp_all

/-- The paragraphs of lines hold the lines that are not blank. -/
theorem flatten_paragraphs (lines : List (List Char)) :
    (paragraphs lines).flatten = lines.filter fun line => !isBlankLine line := by
  fun_induction paragraphs lines with
  | case1 => rfl
  | case2 line blank => simp [blank]
  | case3 line filled => simp [filled]
  | case4 line next rest blank ih => simp_all
  | case5 line next rest filled blank ih => simp_all
  | case6 line next rest filled filled' first others found ih => simp_all
  | case7 line next rest filled filled' none ih => simp_all

theorem paragraphs_blank {line : List Char} (blank : isBlankLine line = true) (rest : List (List Char)) :
    paragraphs (line :: rest) = paragraphs rest := by
  cases rest with
  | nil => simp [paragraphs, blank]
  | cons next others => rw [paragraphs, if_pos blank]

/-- A blank line ends a paragraph and starts none. -/
theorem paragraphs_append_blank {line : List Char} (blank : isBlankLine line = true) (left right : List (List Char)) :
    paragraphs (left ++ line :: right) = paragraphs left ++ paragraphs right := by
  fun_induction paragraphs left with
  | case1 => rw [List.nil_append, paragraphs_blank blank, List.nil_append]
  | case2 single blank' => rw [List.singleton_append, paragraphs_blank blank', paragraphs_blank blank, List.nil_append]
  | case3 single filled =>
    rw [List.singleton_append, paragraphs, if_neg filled, if_pos blank, List.singleton_append]
  | case4 first next rest blank' ih =>
    rw [List.cons_append, paragraphs_blank blank', ih]
  | case5 first next rest filled blank' ih =>
    rw [List.cons_append, List.cons_append, paragraphs, if_neg filled, if_pos blank', ih, List.cons_append]
  | case6 first next rest filled filled' head others found ih =>
    rw [found] at ih
    rw [List.cons_append, List.cons_append, paragraphs, if_neg filled, if_neg filled', ← List.cons_append, ih]
    rfl
  | case7 first next rest filled filled' none ih =>
    have kept : (paragraphs (next :: rest)).flatten = [] := by rw [none, List.flatten_nil]
    rw [flatten_paragraphs, List.filter_cons_of_pos (by simpa using filled')] at kept
    exact absurd kept (by simp)

@[simp] theorem wrap_nil : wrap [] = [] := by
  simp [wrap, replaceAll, splitAt, paragraphs, isBlankLine]

/-- Text after a blank line starts a new paragraph. -/
theorem wrap_append_blank {left : List Char} (noReturn : left.getLast? ≠ some '\r') (right : List Char) :
    wrap (left ++ '\n' :: '\n' :: right) = wrap left ++ wrap right := by
  have plain (rest : List Char) : replaceAll ['\r', '\n'] ['\n'] ('\n' :: rest) =
      '\n' :: replaceAll ['\r', '\n'] ['\n'] rest := replaceAll_of_ne (by decide) rest
  have blank : splitAt '\n' ('\n' :: replaceAll ['\r', '\n'] ['\n'] right) =
      [] :: splitAt '\n' (replaceAll ['\r', '\n'] ['\n'] right) := by rw [splitAt, if_pos rfl]
  rw [wrap, replaceAll_lineEnd_append (mt And.left noReturn), plain, plain, splitAt_append_mark, blank,
    paragraphs_append_blank rfl, List.flatMap_append]
  rfl

def laid : Block → List Char
  | .text text => wrap text
  | .element name element =>
    if name = "pre".toList then element
    else if name = "blockquote".toList then
      match elementParts? element with
      | some (opening, body, closing) => opening ++ inParagraphs body ++ closing
      | none => element.filter (· ≠ '\n')
    else element.filter (· ≠ '\n')

@[simp] theorem laid_text (text : List Char) : laid (.text text) = wrap text := rfl

theorem inParagraphs_eq (markup : List Char) :
    inParagraphs markup = (blocksOf markup).flatMap laid := by
  rw [inParagraphs]
  conv => rhs; rw [← List.attach_map_subtype_val (blocksOf markup), List.flatMap_map]
  congr 1
  funext ⟨block, member⟩
  cases block with
  | text => rfl
  | element name element =>
    simp only [laid]
    split
    · rfl
    · split
      · cases found : elementParts? element with
        | none => split <;> simp_all
        | some parts => split <;> simp_all
      · rfl

def prependText (text : List Char) : List Block → List Block
  | .text markup :: others => .text (text ++ markup) :: others
  | others => .text text :: others

theorem blocks_plain (piece : Piece) (rest : List Segment) :
    blocks (.plain piece :: rest) = prependText piece.source (blocks rest) := by
  rw [blocks]
  cases blocks rest with
  | nil => rfl
  | cons block others => cases block <;> rfl

theorem prependText_append (left right : List Char) (list : List Block) :
    prependText (left ++ right) list = prependText left (prependText right list) := by
  cases list with
  | nil => rfl
  | cons block others =>
    cases block with
    | text markup => simp only [prependText, List.append_assoc]
    | element => rfl

/-- Segments laid out one after the other, where `text` waits to be wrapped. -/
def layOutFrom (text : List Char) : List Segment → List Char
  | [] => wrap text
  | .plain piece :: rest => layOutFrom (text ++ piece.source) rest
  | .element name pieces :: rest => wrap text ++ laid (.element name (sourceOf pieces)) ++ layOutFrom [] rest

theorem laid_prependText_nil (list : List Block) : (prependText [] list).flatMap laid = list.flatMap laid := by
  cases list with
  | nil => simp [prependText]
  | cons block others => cases block <;> simp [prependText]

/-- Text that waits belongs to the first block. -/
theorem laid_prependText (text : List Char) (parts : List Segment) :
    (prependText text (blocks parts)).flatMap laid = layOutFrom text parts := by
  induction parts generalizing text with
  | nil => simp [blocks, prependText, layOutFrom]
  | cons part rest ih =>
    cases part with
    | plain piece => rw [blocks_plain, ← prependText_append, ih, layOutFrom]
    | element name pieces =>
      have later := ih []
      rw [laid_prependText_nil] at later
      simp [blocks, layOutFrom, ← later, prependText]

/-- Laying out block by block is a run over the segments. -/
theorem inParagraphs_eq_layOutFrom (markup : List Char) :
    inParagraphs markup = layOutFrom [] (segments blockElements (pieces markup)) := by
  rw [inParagraphs_eq, blocksOf, ← laid_prependText, laid_prependText_nil]

/-- Pieces that are left in pieces wait to be wrapped. -/
theorem layOutFrom_map_plain (text : List Char) (parts : List Piece) (rest : List Segment) :
    layOutFrom text (parts.map .plain ++ rest) = layOutFrom (text ++ sourceOf parts) rest := by
  induction parts generalizing text with
  | nil => simp
  | cons part others ih => simp [layOutFrom, ih]

section Forest

variable {voids : List (List Char)} {forest : ElementForest}
  (known : ∀ listed ∈ blockElements.void, listed.toList ∈ voids)
  (normal : ∀ listed ∈ blockElements.normal, listed.toList ∉ voids) (nested : forest.IsNested voids)
  (complete : IsComplete forest.pieces)

include known normal nested complete

/-- The segments of properly nested markup are those of the forest, whatever follows. -/
theorem segments_source_append (rest : List Char) : segments blockElements (pieces (forest.source ++ rest)) =
    forest.segments blockElements ++ segments blockElements (pieces rest) := by
  rw [ElementForest.source, pieces_of_isComplete complete]
  apply ElementForest.segments_pieces known nested
  intro tag _ _ void
  rw [Bool.eq_false_iff]
  exact fun listed => blockElements.not_mem_of_isNormal normal listed void

theorem inParagraphs_source : inParagraphs forest.source = layOutFrom [] (forest.segments blockElements) := by
  have alone := segments_source_append known normal nested complete []
  have none : segments blockElements [] = [] := by rw [segments]
  rw [List.append_nil, pieces_nil, none, List.append_nil] at alone
  rw [inParagraphs_eq_layOutFrom, alone]

end Forest

end PostMarkup.Layout
