import PostMarkup.Proofs.Layout.Line
import PostMarkup.Proofs.Layout.Nested

/-! # What layout keeps

Markup whose lines are properly nested is laid out as properly nested markup, with the same visible text and
the same preformatted elements. The text that waits for the next block is markup without paragraphs and
blocks throughout, and a block quote is laid out from within.
-/

namespace PostMarkup

open PostMarkup.Text PostMarkup.Layout

variable {voids : List (List Char)} {forest : ElementForest}

namespace ElementForest

/-- A forest without the line feeds among its characters. -/
def withoutNewlines : ElementForest → ElementForest
  | nil => nil
  | char c rest => if c = '\n' then rest.withoutNewlines else char c rest.withoutNewlines
  | void tag rest => void tag rest.withoutNewlines
  | element first last body rest => element first last body.withoutNewlines rest.withoutNewlines

theorem pieces_withoutNewlines (forest : ElementForest) :
    forest.withoutNewlines.pieces = Layout.withoutNewlines forest.pieces := by
  induction forest with
  | nil => rfl
  | char c rest ih =>
    rw [withoutNewlines]
    by_cases newline : c = '\n'
    · simpa [newline, pieces, Layout.withoutNewlines] using ih
    · simpa [newline, pieces, Layout.withoutNewlines] using ih
  | void tag rest ih => simpa [withoutNewlines, pieces, Layout.withoutNewlines] using ih
  | element first last body rest ihBody ihRest =>
    simp only [Layout.withoutNewlines] at ihBody ihRest
    simp [withoutNewlines, pieces, Layout.withoutNewlines, ihBody, ihRest]

theorem IsNested.withoutNewlines (nested : forest.IsNested voids) : forest.withoutNewlines.IsNested voids := by
  induction forest with
  | nil => trivial
  | char c rest ih =>
    rw [ElementForest.withoutNewlines]
    split
    · exact ih nested
    · exact ih nested
  | void tag rest ih => exact ⟨nested.1, nested.2.1, ih nested.2.2⟩
  | element first last body rest ihBody ihRest =>
    exact ⟨nested.1, nested.2.1, ihBody nested.2.2.1, ihRest nested.2.2.2⟩

theorem preformatted_withoutNewlines (none : forest.preformatted = []) : forest.withoutNewlines.preformatted = [] := by
  induction forest with
  | nil => rfl
  | char c rest ih =>
    rw [withoutNewlines]
    split
    · exact ih none
    · exact ih none
  | void tag rest ih => exact ih none
  | element first last body rest ihBody ihRest =>
    rw [preformatted, List.append_eq_nil_iff] at none
    obtain ⟨inside, further⟩ := none
    rw [withoutNewlines, preformatted, ihRest further, List.append_nil]
    split at inside
    · exact absurd inside (by simp)
    · rename_i other
      rw [if_neg other]
      split
      · rename_i quote
        rw [if_pos quote] at inside
        exact ihBody inside
      · rfl

/-- Markup without paragraphs and preformatted elements, copied without its line feeds. -/
theorem isLaidText_filter (unlaid : forest.IsUnlaid voids)
    (noParagraph : ∀ tag, .tag tag ∈ forest.pieces → tag.name ≠ paragraphName) (none : forest.preformatted = []) :
    IsLaidText voids [] (visibleText forest.source) (forest.source.filter (· ≠ '\n')) := by
  have source : forest.withoutNewlines.source = forest.source.filter (· ≠ '\n') := by
    rw [ElementForest.source, pieces_withoutNewlines, sourceOf_withoutNewlines unlaid.line, ElementForest.source]
  have part {part : Piece} (member : part ∈ forest.withoutNewlines.pieces) : part ∈ forest.pieces := by
    rw [pieces_withoutNewlines] at member
    exact (List.mem_filter.mp member).1
  have written : ∀ part ∈ forest.withoutNewlines.pieces, part.IsWritten :=
    fun _ member => unlaid.written _ (part member)
  have line : '\n' ∉ forest.withoutNewlines.source := by
    rw [source]
    exact fun member => by simp at member
  refine ⟨forest.withoutNewlines, source, ⟨unlaid.nested.withoutNewlines, written, ?_, linesInPre_of_line line⟩,
    preformatted_withoutNewlines none, ?_⟩
  · exact isFlat_of_forall_ne fun tag member => noParagraph tag (part member)
  · rw [← source, visibleText_source written, visibleText_source unlaid.written, pieces_withoutNewlines]
    apply flatMap_filter
    intro part dropped
    obtain rfl : part = .char '\n' := by simpa using dropped
    rfl

/-- A preformatted element is copied as it is. -/
theorem isLaidText_pre {first last : Tag} {body : ElementForest}
    (unlaid : (element first last body nil).IsUnlaid voids) (pre : first.name = preName) :
    IsLaidText voids [(element first last body nil).source] (visibleText (element first last body nil).source)
      (element first last body nil).source := by
  have block := unlaid.flow.1
  have names : preName ≠ quoteName ∧ preName ≠ paragraphName := by decide
  rw [if_neg (pre ▸ names.1), if_pos (pre ▸ preName_isBlockName)] at block
  refine ⟨element first last body nil, rfl, ⟨unlaid.nested, unlaid.written, ?_, .inl pre, trivial⟩, ?_, rfl⟩
  · exact ⟨fun paragraph => absurd (pre.symm.trans paragraph) names.2, isFlat_of_forall_ne block, trivial⟩
  · simp [preformatted, pre]

/-- A block quote is copied around its body. -/
theorem isLaidText_quote {first last : Tag} {body : ElementForest} {text : List Char}
    (unlaid : (element first last body nil).IsUnlaid voids) (quote : first.name = quoteName)
    (laid : IsLaidText voids body.preformatted (visibleText body.source) text) :
    IsLaidText voids body.preformatted (visibleText (element first last body nil).source)
      (first.source ++ text ++ last.source) := by
  obtain ⟨inner, rfl, ⟨nested, written, flat, lines⟩, kept, shown⟩ := laid
  obtain ⟨opens, closes, _, _⟩ := unlaid.nested
  obtain ⟨first', _, last'⟩ := written_element.mp unlaid.written
  have names : quoteName ≠ preName ∧ quoteName ≠ paragraphName := by decide
  have source : (element first last inner nil).source = first.source ++ inner.source ++ last.source := by simp
  have written' : ∀ part ∈ (element first last inner nil).pieces, part.IsWritten :=
    written_element.mpr ⟨first', written, last'⟩
  refine ⟨element first last inner nil, source, ⟨⟨opens, closes, nested, trivial⟩, written', ?_, ?_⟩, ?_, ?_⟩
  · exact ⟨fun paragraph => absurd (quote.symm.trans paragraph) names.2, flat, trivial⟩
  · refine ⟨.inr ⟨unlaid.line first (by simp [pieces]), unlaid.line last (by simp [pieces]), ?_⟩, trivial⟩
    rwa [if_pos quote]
  · simp [preformatted, quote, names.1, kept]
  · rw [← source, visibleText_element written', shown, visibleText_element unlaid.written]

/-- The opening tag, the body and the closing tag of a block quote without attributes. -/
theorem elementParts?_source {first last : Tag} (opens : first.closing = false) (closes : last.closing = true)
    (bare : first.IsBare) (bare' : last.IsBare) (body : ElementForest) :
    elementParts? (element first last body nil).source = some (first.source, body.source, last.source) := by
  obtain ⟨name, space, word, blank, source⟩ := bare
  obtain ⟨name', space', word', blank', source'⟩ := bare'
  have clean {name space : List Char} {c : Char} (word : name.all Char.isAlphanum = true)
      (blank : space.all isBlank = true) (other : c.isAlphanum = false) (other' : isBlank c = false) :
      c ∉ name ++ space := by
    intro member
    rcases List.mem_append.mp member with member | member
    · exact Bool.false_ne_true (other.symm.trans (List.all_eq_true.mp word c member))
    · exact Bool.false_ne_true (other'.symm.trans (List.all_eq_true.mp blank c member))
  have first' : '>' ∉ '<' :: (name ++ space) :=
    List.not_mem_cons_of_ne_of_not_mem (by decide) (clean word blank (by decide) (by decide))
  have last' : '<' ∉ name' ++ space' ++ ['>'] :=
    List.not_mem_append (clean word' blank' (by decide) (by decide)) (by decide)
  simp only [opens, closes, if_true, Bool.false_eq_true, if_false] at source source'
  have same : first.source = '<' :: (name ++ space) ++ ['>'] := by rw [source]; simp
  have same' : last.source = "</".toList ++ (name' ++ space' ++ ['>']) := by rw [source']; simp
  rw [source_element, source_nil, List.append_nil, same, same']
  exact elementParts?_eq_some first' last' body.source

/-- Other blocks are copied without their line feeds. -/
theorem isLaidText_other {first last : Tag} {body : ElementForest}
    (unlaid : (element first last body nil).IsUnlaid voids) (block : isBlockName first.name = true)
    (notPre : first.name ≠ preName) (notQuote : first.name ≠ quoteName) :
    IsLaidText voids (element first last body nil).preformatted (visibleText (element first last body nil).source)
      ((element first last body nil).source.filter (· ≠ '\n')) := by
  have none : (element first last body nil).preformatted = [] := by
    simp [preformatted, notPre, notQuote]
  have notParagraph : first.name ≠ paragraphName := by
    intro same
    rw [same] at block
    exact absurd block (by decide)
  obtain ⟨flow, _⟩ := unlaid.flow
  rw [if_neg notQuote, if_pos block] at flow
  rw [none]
  apply isLaidText_filter unlaid _ none
  intro tag member
  simp only [pieces, List.mem_cons, List.mem_append, Piece.tag.injEq, List.not_mem_nil, or_false] at member
  rcases member with rfl | member | rfl
  · exact notParagraph
  · exact flow tag member
  · exact unlaid.nested.2.1.2 ▸ notParagraph

/-- A block is copied, or laid out from within if it is a block quote. -/
theorem isLaidText_block {first last : Tag} {body : ElementForest}
    (unlaid : (element first last body nil).IsUnlaid voids) (normal : blockElements.isNormal first.name = true)
    (quoted : body.IsUnlaid voids → IsLaidText voids body.preformatted (visibleText body.source)
      (inParagraphs body.source)) :
    IsLaidText voids (element first last body nil).preformatted (visibleText (element first last body nil).source)
      (laid (.element first.name (element first last body nil).source)) := by
  have block : isBlockName first.name = true := by simp [isBlockName, normal]
  have names : preName = "pre".toList ∧ quoteName = "blockquote".toList := ⟨rfl, rfl⟩
  obtain ⟨flow, _⟩ := unlaid.flow
  rw [laid, ← names.1, ← names.2]
  split
  · rename_i pre
    have kept : (element first last body nil).preformatted = [(element first last body nil).source] := by
      simp [preformatted, pre]
    rw [kept]
    exact isLaidText_pre unlaid pre
  rename_i notPre
  split
  · rename_i quote
    have kept : (element first last body nil).preformatted = body.preformatted := by
      rw [preformatted, if_neg notPre, if_pos quote, preformatted, List.append_nil]
    have part {part : Piece} (member : part ∈ body.pieces) : part ∈ (element first last body nil).pieces := by
      simp [pieces, member]
    obtain ⟨⟨opens, _, _⟩, ⟨closes, _⟩, nested, _⟩ := unlaid.nested
    rw [if_pos quote] at flow
    obtain ⟨bare, bare', inside⟩ := flow
    rw [elementParts?_source opens closes bare bare', kept]
    apply isLaidText_quote unlaid quote
    exact quoted ⟨nested, fun _ member => unlaid.written _ (part member),
      fun tag member => unlaid.line tag (part member), inside⟩
  · rename_i notQuote
    exact isLaidText_other unlaid block notPre notQuote

/-- Whether laying out a forest keeps the visible text and the preformatted elements, where markup without
paragraphs and blocks waits in front of it. -/
def IsKept (voids : List (List Char)) (forest : ElementForest) : Prop :=
  ∀ waiting : ElementForest, (waiting ++ forest).IsUnlaid voids → waiting.IsFree →
    IsLaidText voids forest.preformatted (visibleText waiting.source ++ visibleText forest.source)
      (layOutFrom waiting.source (forest.segments blockElements))

namespace IsKept

variable {front rest : ElementForest}

theorem nil (knows : KnowsVoids voids) : IsKept voids nil := by
  intro waiting unlaid free
  have wrapped := isLaidText_wrap knows (hasInlineLines_source (isUnlaid_append.mp unlaid).1 free)
  rw [source_nil, visibleText_nil, List.append_nil]
  exact wrapped

/-- Characters and elements that are no blocks wait. -/
theorem wait (plain : front.IsUnlaid voids → front.IsFree) (later : IsKept voids rest) :
    IsKept voids (front ++ rest) := by
  intro waiting unlaid free
  obtain ⟨before, after⟩ := isUnlaid_append.mp unlaid
  obtain ⟨single, _⟩ := isUnlaid_append.mp after
  have free' := plain single
  have laid := later (waiting ++ front) (append_assoc waiting front rest ▸ unlaid) (isFree_append.mpr ⟨free, free'⟩)
  rw [source_append, visibleText_source_append before.written, List.append_assoc] at laid
  rw [segments_append, segments_of_isFree free', layOutFrom_map_plain, preformatted_append,
    preformatted_of_isFree free', List.nil_append, source_append, visibleText_source_append single.written]
  exact laid

/-- A block is laid out after the text that waits for it. -/
theorem block (knows : KnowsVoids voids) {name : List Char} {parts : List Piece}
    (whole : front.segments blockElements = [.element name parts])
    (kept : front.IsUnlaid voids →
      IsLaidText voids front.preformatted (visibleText front.source) (laid (.element name front.source)))
    (later : IsKept voids rest) : IsKept voids (front ++ rest) := by
  intro waiting unlaid free
  obtain ⟨before, after⟩ := isUnlaid_append.mp unlaid
  obtain ⟨inside, further⟩ := isUnlaid_append.mp after
  have source : sourceOf parts = front.source := by
    rw [← source_segments blockElements front, whole, List.flatMap_singleton, Segment.source]
  have wrapped := isLaidText_wrap knows (hasInlineLines_source before free)
  have laid := (wrapped.append (kept inside)).append (later .nil further isFree_nil)
  rw [segments_append, whole, List.singleton_append, layOutFrom, source, preformatted_append, source_append,
    visibleText_source_append inside.written]
  simpa using laid

/-- Markup without anything waiting in front of it. -/
theorem isLaidText_inParagraphs (knows : KnowsVoids voids) (kept : IsKept voids forest)
    (unlaid : forest.IsUnlaid voids) :
    IsLaidText voids forest.preformatted (visibleText forest.source) (inParagraphs forest.source) := by
  have laid := kept .nil unlaid isFree_nil
  rw [source_nil, visibleText_nil, List.nil_append] at laid
  rw [inParagraphs_source knows.rule knows.block unlaid.nested (isComplete_of_isWritten unlaid.written)]
  exact laid

end IsKept

/-- A void element that is no block belongs to a line. -/
theorem isFree_void (knows : KnowsVoids voids) {tag : Tag} (nested : (void tag nil).IsNested voids)
    (plain : blockElements.isVoid tag.name = false) : (void tag nil).IsFree := by
  obtain ⟨_, isVoid, _⟩ := nested
  intro other member
  obtain rfl : other = tag := by simpa [pieces] using member
  have notNormal : blockElements.isNormal other.name = false := by
    rw [Bool.eq_false_iff]
    exact fun normal => blockElements.not_mem_of_isNormal knows.block normal isVoid
  exact ⟨fun same => knows.paragraph (same ▸ isVoid), by rw [isBlockName, notNormal, plain]; rfl⟩

/-- An element that is no block belongs to a line. -/
theorem isFree_element (knows : KnowsVoids voids) {first last : Tag} {body : ElementForest}
    (unlaid : (element first last body nil).IsUnlaid voids) (plain : blockElements.isNormal first.name = false) :
    (element first last body nil).IsFree := by
  obtain ⟨⟨_, _, normal⟩, ⟨_, same⟩, _, _⟩ := unlaid.nested
  have notVoid : blockElements.isVoid first.name = false := by
    rw [Bool.eq_false_iff]
    exact fun isVoid => normal (blockElements.mem_of_isVoid knows.rule isVoid)
  have notBlock : isBlockName first.name = false := by rw [isBlockName, plain, notVoid]; rfl
  have notQuote : first.name ≠ quoteName := fun quote => by simp [quote, quoteName_isBlockName] at notBlock
  obtain ⟨flow, _⟩ := unlaid.flow
  rw [if_neg notQuote, if_neg (by simp [notBlock])] at flow
  intro tag member
  simp only [pieces, List.mem_cons, List.mem_append, Piece.tag.injEq, List.not_mem_nil, or_false] at member
  rcases member with rfl | member | rfl
  · exact ⟨flow.1, notBlock⟩
  · exact flow.2.1 tag member
  · rw [same]
    exact ⟨flow.1, notBlock⟩

/-- A rule is copied. -/
theorem isLaidText_rule {tag : Tag} (unlaid : (void tag nil).IsUnlaid voids)
    (rule : blockElements.isVoid tag.name = true) :
    IsLaidText voids [] (visibleText (void tag nil).source) (laid (.element tag.name (void tag nil).source)) := by
  have other {name : List Char} (differs : blockElements.isVoid name = false) : tag.name ≠ name :=
    fun same => Bool.false_ne_true (differs.symm.trans (same ▸ rule))
  rw [laid, if_neg (other (by decide)), if_neg (other (by decide))]
  apply isLaidText_filter unlaid _ rfl
  intro single member
  obtain rfl : single = tag := by simpa [pieces] using member
  exact other (by decide)

/-- Laying out keeps the visible text and the preformatted elements. -/
theorem isKept (knows : KnowsVoids voids) (forest : ElementForest) : IsKept voids forest := by
  induction forest with
  | nil => exact .nil knows
  | char c rest ih =>
    have waits : IsKept voids (char c nil ++ rest) := .wait (fun _ => isFree_char c) ih
    exact waits
  | void tag rest ih =>
    cases listed : blockElements.isVoid tag.name with
    | true =>
      have whole : (void tag nil).segments blockElements = [.element tag.name [.tag tag]] := by
        rw [segments, if_pos listed, segments]
      exact IsKept.block knows whole (fun unlaid => isLaidText_rule unlaid listed) ih
    | false => exact IsKept.wait (fun unlaid => isFree_void knows unlaid.nested listed) ih
  | element first last body rest ihBody ihRest =>
    cases listed : blockElements.isNormal first.name with
    | true =>
      have whole : (element first last body nil).segments blockElements =
          [.element first.name (elementPieces first body.pieces last)] := by
        rw [segments, if_pos listed, segments]
      exact IsKept.block knows whole
        (fun unlaid => isLaidText_block unlaid listed (ihBody.isLaidText_inParagraphs knows)) ihRest
    | false => exact IsKept.wait (fun unlaid => isFree_element knows unlaid listed) ihRest

end ElementForest

/-- Paragraph formatting keeps text and nesting: lines of inline markup and blocks that are properly nested are laid
out as properly nested markup. In it no paragraph holds a paragraph or a block, line feeds stand only in
preformatted elements that no elements but block quotes hold, and those elements and the visible text are
what they were. -/
theorem Layout.inParagraphs_keeps (voids : List (List Char)) (knows : KnowsVoids voids) (forest : ElementForest)
    (unlaid : forest.IsUnlaid voids) : ∃ laid : ElementForest, laid.source = inParagraphs forest.source ∧
      (laid.IsNested voids ∧ ∀ part ∈ laid.pieces, part.IsWritten) ∧ laid.IsFlat ∧ laid.LinesInPre ∧
      laid.preformatted = forest.preformatted ∧ visibleText laid.source = visibleText forest.source := by
  obtain ⟨laid, source, ⟨nested, written, flat, lines⟩, kept, shown⟩ :=
    (ElementForest.isKept knows forest).isLaidText_inParagraphs knows unlaid
  exact ⟨laid, source, ⟨nested, written⟩, flat, lines, kept, source ▸ shown⟩

/-- An inline element before a line end of two characters, a list with a line feed, and a block quote with preformatted
text in it. -/
theorem Layout.inParagraphs_keeps_quote :
    let within (name : List Char) (body rest : ElementForest) : ElementForest :=
      .element (.opening name []) (.stop name) body rest
    let list := within ['u', 'l'] (.char '\n' (within ['l', 'i'] (.char 'c' .nil) .nil))
    let quote := within quoteName (.char 'd' (.char '\n' (within preName (.char 'e' (.char '\n' .nil)) .nil)))
    let rule := ElementForest.void (.single ['h', 'r'] [])
    let forest : ElementForest :=
      .char 'a' (within ['e', 'm'] (.char 'b' .nil) (.char '\r' (.char '\n' (list (rule (quote .nil))))))
    KnowsVoids voidNames ∧ forest.IsUnlaid voidNames ∧
      forest.source =
        "a<em>b</em>\r\n<ul>\n<li>c</li></ul><hr /><blockquote>d\n<pre>e\n</pre></blockquote>".toList ∧
      ∃ laid : ElementForest, laid.source = inParagraphs forest.source ∧
        (laid.IsNested voidNames ∧ ∀ part ∈ laid.pieces, part.IsWritten) ∧ laid.IsFlat ∧ laid.LinesInPre ∧
        laid.preformatted = forest.preformatted ∧ visibleText laid.source = visibleText forest.source := by
  intro within list quote rule forest
  have knows : KnowsVoids voidNames := ⟨by decide, by decide, by decide, by decide⟩
  have pair {name : List Char} {body rest : ElementForest} (normal : name ∉ voidNames)
      (inside : body.IsNested voidNames) (further : rest.IsNested voidNames) :
      (within name body rest).IsNested voidNames := ⟨⟨rfl, rfl, normal⟩, ⟨rfl, rfl⟩, inside, further⟩
  have nested : forest.IsNested voidNames := by
    refine pair (by decide) trivial (pair (by decide) (pair (by decide) trivial trivial) ⟨rfl, by decide, ?_⟩)
    exact pair (by decide) (pair (by decide) trivial trivial) trivial
  have written : ∀ part ∈ forest.pieces, part.IsWritten := by decide
  have line : ∀ tag, .tag tag ∈ forest.pieces → '\n' ∉ tag.source := by
    simp +decide [forest, list, quote, rule, within, ElementForest.pieces, or_imp, forall_and]
  have flow : forest.IsFlow := by
    have bare : (Tag.opening quoteName []).IsBare ∧ (Tag.stop quoteName).IsBare :=
      ⟨⟨quoteName, [], by decide, by decide, by decide⟩, ⟨quoteName, [], by decide, by decide, by decide⟩⟩
    simp +decide [forest, list, quote, rule, within, ElementForest.IsFlow, ElementForest.IsFree, ElementForest.pieces,
      bare]
  have unlaid : forest.IsUnlaid voidNames := ⟨nested, written, line, flow⟩
  exact ⟨knows, unlaid, by decide, inParagraphs_keeps voidNames knows forest unlaid⟩

end PostMarkup
