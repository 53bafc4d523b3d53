import PostMarkup.Proofs.Layout.Block

/-! # Markup that is laid out

A block quote is laid out from within. Every other block is copied, without its line feeds unless it
is preformatted. So markup in flow becomes paragraphs and blocks.
-/

namespace PostMarkup.Layout

open PostMarkup.Text

variable {outer : List (List Char)} {parts : List Piece} {name found markup : List Char}

/-- Inside a block, markup in flow may be laid out as it is, if line feeds stand in preformatted
text only. -/
theorem laid_of_flow {chars : Char → Prop} (inside : host outer = some found)
    (keeps : ∀ c, chars c → c = '\n' → found = "pre".toList)
    (nested : Nested (flow Tag.IsCarried chars) outer parts) : Nested laidModel outer parts := by
  apply nested.inside inside
  · rintro around c inside ⟨kind, _⟩
    refine ⟨trivial, by simp [inside], ?_⟩
    intro newline
    rw [inside, keeps c kind newline]
  · rintro around tag inside ⟨carried, _, free, placed⟩
    exact ⟨carried, free, by simpa only [inside] using placed⟩

/-- A block that is copied. -/
theorem laid_of_isElement {chars : Char → Prop} (flows : InFlow outer) (block : name ∈ blockNames)
    (keeps : ∀ c, chars c → c = '\n' → name = "pre".toList)
    (element : IsElement (flow Tag.IsCarried chars) outer name parts) : Nested laidModel outer parts := by
  have placed (tag : Tag) (same : tag.name ∈ blockNames)
      (permitted : (flow Tag.IsCarried chars).tag outer tag) : laidModel.tag outer tag := by
    refine ⟨permitted.1, permitted.2.2.1, ?_⟩
    rw [show host outer = none from flows]
    exact .inl same
  cases element with
  | void written void permitted => exact .void written void (placed _ block permitted) .nil
  | normal wFirst wLast opens closes same pFirst pLast inside =>
    have other : ∀ name ∈ blockNames, name ≠ quoteName := by decide
    apply Nested.element wFirst wLast opens closes same (placed _ block pFirst)
      (placed _ (same ▸ block) pLast) _ .nil
    exact laid_of_flow (host_cons_of_none flows (other _ block)) keeps inside

/-- Pieces without the line feeds among them. -/
def withoutNewlines (parts : List Piece) : List Piece := parts.filter (· ≠ .char '\n')

theorem nested_withoutNewlines (nested : Nested postModel outer parts) :
    Nested (flow Tag.IsCarried (· ≠ '\n')) outer (withoutNewlines parts) := by
  induction nested with
  | nil => exact .nil
  | @char outer c rest differs permitted _ ih =>
    by_cases newline : c = '\n'
    · subst newline
      simpa [withoutNewlines] using ih
    · rw [withoutNewlines, List.filter_cons_of_pos (by simpa using newline)]
      exact .char differs (flow_char_of_ne newline newline) ih
  | void written void permitted _ ih =>
    rw [withoutNewlines, List.filter_cons_of_pos (by simp)]
    exact .void written void permitted ih
  | element wFirst wLast opens closes same pFirst pLast _ _ ihBody ihRest =>
    rw [withoutNewlines, List.filter_cons_of_pos (by simp), List.filter_append,
      List.filter_cons_of_pos (by simp)]
    exact .element wFirst wLast opens closes same pFirst pLast ihBody ihRest

theorem isElement_withoutNewlines (element : IsElement postModel outer name parts) :
    IsElement (flow Tag.IsCarried (· ≠ '\n')) outer name (withoutNewlines parts) := by
  cases element with
  | void written void permitted =>
    rw [withoutNewlines, List.filter_cons_of_pos (by simp)]
    exact .void written void permitted
  | normal wFirst wLast opens closes same pFirst pLast inside =>
    rw [withoutNewlines, List.filter_cons_of_pos (by simp), List.filter_append,
      List.filter_cons_of_pos (by simp)]
    exact .normal wFirst wLast opens closes same pFirst pLast (nested_withoutNewlines inside)

/-- Tags stand on one line. -/
theorem sourceOf_withoutNewlines (line : ∀ tag, .tag tag ∈ parts → '\n' ∉ tag.source) :
    sourceOf (withoutNewlines parts) = (sourceOf parts).filter (· ≠ '\n') := by
  induction parts with
  | nil => rfl
  | cons part rest ih =>
    have further := ih fun tag member => line tag (List.mem_cons_of_mem _ member)
    rw [withoutNewlines] at further ⊢
    cases part with
    | char c =>
      by_cases newline : c = '\n'
      · simpa [newline, Piece.source] using further
      · simpa [newline, Piece.source] using further
    | tag tag =>
      have kept : tag.source.filter (· ≠ '\n') = tag.source := by
        rw [List.filter_eq_self]
        intro c member
        apply decide_eq_true
        intro same
        exact line tag List.mem_cons_self (same ▸ member)
      rw [List.filter_cons_of_pos (by simp), sourceOf_cons, sourceOf_cons, List.filter_append, further,
        Piece.source, kept]

theorem fragment_filter (flows : InFlow outer) (block : name ∈ blockNames)
    (element : IsElement postModel outer name parts) :
    Fragment laidModel outer ((sourceOf parts).filter (· ≠ '\n')) := by
  have line (tag : Tag) (member : .tag tag ∈ parts) : '\n' ∉ tag.source := by
    obtain ⟨_, carried, _⟩ := element.nested.exists_permitted member
    exact carried.line
  rw [← sourceOf_withoutNewlines line]
  apply Fragment.of_nested
  exact laid_of_isElement flows block (fun c kept newline => absurd newline kept)
    (isElement_withoutNewlines element)

theorem cutAtLastClosing?_append (text : List Char) {closing : List Char}
    (last : cutAtLastClosing? closing = some ([], closing)) :
    cutAtLastClosing? (text ++ closing) = some (text, closing) := by
  induction text with
  | nil => exact last
  | cons c rest ih => simp [cutAtLastClosing?, ih]

theorem cutAtLastClosing?_of_not_mem {text : List Char} (clean : '<' ∉ text) : cutAtLastClosing? text = none := by
  induction text with
  | nil => rfl
  | cons c rest ih =>
    simp only [List.mem_cons, not_or] at clean
    simp [cutAtLastClosing?, ih clean.2, clean.1]

/-- The parts of an element are found by the first `>`, if it ends the opening tag, and the last `</`, if it starts
the closing tag. -/
theorem elementParts?_eq_some {opening closing : List Char} (first : '>' ∉ opening) (last : '<' ∉ closing)
    (body : List Char) : elementParts? (opening ++ ['>'] ++ (body ++ ("</".toList ++ closing))) =
      some (opening ++ ['>'], body, "</".toList ++ closing) := by
  have alone : cutAtLastClosing? ("</".toList ++ closing) = some ([], "</".toList ++ closing) := by
    simp [cutAtLastClosing?, cutAtLastClosing?_of_not_mem last]
  rw [List.append_assoc, List.singleton_append, elementParts?, cutAt?_of_not_mem first]
  change (cutAtLastClosing? (body ++ ("</".toList ++ closing))).bind _ = _
  rw [cutAtLastClosing?_append body alone]
  rfl

theorem elementParts?_quote (body : List Char) :
    elementParts? ((Tag.opening quoteName []).source ++ (body ++ (Tag.stop quoteName).source)) =
      some ((Tag.opening quoteName []).source, body, (Tag.stop quoteName).source) := by
  have first : '>' ∉ "<blockquote".toList := by decide
  have last : '<' ∉ "blockquote>".toList := by decide
  exact elementParts?_eq_some first last body

/-- A block quote in flow is its opening tag, a body in flow and its closing tag. -/
theorem quote_of_isElement (flows : InFlow outer) (element : IsElement postModel outer name parts)
    (quote : name = quoteName) : ∃ body, Fragment postModel (quoteName :: outer) body ∧
      elementParts? (sourceOf parts) =
        some ((Tag.opening quoteName []).source, body, (Tag.stop quoteName).source) := by
  have others : quoteName ∉ inlineNames ∧ quoteName ∉ blockNames ∧ quoteName ∉ voidNames := by decide
  have own (tag : Tag) (same : tag.name = quoteName) (permitted : postModel.tag outer tag) :
      tag = .opening quoteName [] ∨ tag = .stop quoteName := by
    obtain ⟨_, _, _, placed⟩ := permitted
    rw [show host outer = none from flows, same] at placed
    rcases placed with inline | block | own
    · exact absurd inline others.1
    · exact absurd block others.2.1
    · exact own
  cases element with
  | void _ void _ => exact absurd (quote ▸ void.2) others.2.2
  | @normal first last body _ _ opens closes same pFirst pLast inside =>
    obtain rfl : first = .opening quoteName [] := by
      rcases own first quote pFirst with rfl | rfl
      · rfl
      · exact absurd opens.1 (by decide)
    obtain rfl : last = .stop quoteName := by
      rcases own last same pLast with rfl | rfl
      · exact absurd closes (by decide)
      · rfl
    have source : sourceOf (.tag (.opening quoteName []) :: (body ++ [.tag (.stop quoteName)])) =
        (Tag.opening quoteName []).source ++ (sourceOf body ++ (Tag.stop quoteName).source) := by
      simp [Piece.source]
    rw [source]
    exact ⟨sourceOf body, .of_nested inside, elementParts?_quote _⟩

/-- Markup without blocks is laid out as paragraphs. -/
theorem inParagraphs_of_ignored {markup : List Char}
    (ignored : ∀ tag, .tag tag ∈ pieces markup → blockElements.Ignores tag) : inParagraphs markup = wrap markup := by
  rw [inParagraphs_eq]
  cases markup with
  | nil => simp [blocksOf, segments, blocks, wrap_nil]
  | cons c rest =>
    rw [blocksOf_of_ignored ignored (by simp)]
    simp [laid]

/-- Markup in flow is laid out as paragraphs and blocks. -/
theorem fragment_inParagraphs (flows : InFlow outer) (fragment : Fragment postModel outer markup) :
    Fragment laidModel outer (inParagraphs markup) := by
  induction size : markup.length using Nat.strongRecOn generalizing markup outer with
  | ind size ih =>
    subst size
    rw [inParagraphs_eq]
    apply Fragment.flatMap
    intro block member
    have fits := fits_of_mem_blocksOf flows fragment block member
    have bound := length_source_le member
    cases block with
    | text text => exact fragment_wrap flows fits
    | element name element =>
      obtain ⟨parts, rfl, whole, block⟩ := fits
      simp only [laid]
      split
      · rename_i pre
        have block : name ∈ blockNames := by
          rw [pre]
          decide
        exact .of_nested (laid_of_isElement flows block (fun _ _ _ => pre) whole)
      · split
        · rename_i quote
          obtain ⟨body, inside, found⟩ := quote_of_isElement flows whole quote
          rw [found]
          obtain ⟨same, positive⟩ := eq_of_elementParts? found
          simp only [Block.source, same, List.length_append] at bound
          simp only [List.append_assoc]
          exact fragment_layer flows (.inl rfl) (ih body.length (by omega) flows.quote inside rfl)
        · rename_i other
          exact fragment_filter flows (block.resolve_right other) whole

end PostMarkup.Layout
