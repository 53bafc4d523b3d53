import PostMarkup.Proofs.Layout.Paragraph
import PostMarkup.Proofs.Markup.Outermost
import PostMarkup.Proofs.Renderer.Flow

/-! # Blocks of nested markup

In flow the outermost elements are inline elements and blocks. The inline elements stand on one line
each and belong to the text between blocks.
-/

namespace PostMarkup.Layout

open PostMarkup.Text

variable {outer : List (List Char)} {parts : List Piece} {name found text : List Char}

def Block.Fits (outer : List (List Char)) : Block → Prop
  | .text markup => Lines outer markup
  | .element name markup => ∃ inner, markup = sourceOf inner ∧
      IsElement postModel outer name inner ∧ (name ∈ blockNames ∨ name = quoteName)

/-- Inside an inline element there are inline elements only, and no line feed. -/
theorem nested_line (inside : host outer = some found) (inline : found ∈ inlineNames)
    (nested : Nested postModel outer parts) : Nested lineModel outer parts := by
  have apart : ∀ name ∈ inlineNames, name ∉ blockNames := by decide
  apply nested.inside inside
  · rintro around c inside ⟨_, block⟩ rfl
    exact apart found inline (block rfl found inside)
  · rintro around tag inside ⟨carried, _, free, placed⟩
    rw [inside] at placed
    rcases placed with inline' | ⟨block, _⟩
    · exact ⟨carried, inline', free⟩
    · exact absurd block (apart found inline)

/-- An inline element in flow stands on one line. -/
theorem nested_inlineElement (flows : InFlow outer) (inline : name ∈ inlineNames)
    (element : IsElement postModel outer name parts) : Nested lineModel outer parts := by
  have placed (tag : Tag) (same : tag.name ∈ inlineNames) (permitted : postModel.tag outer tag) :
      lineModel.tag outer tag := ⟨permitted.1, same, permitted.2.2.1⟩
  cases element with
  | void written void permitted => exact .void written void (placed _ inline permitted) .nil
  | normal wFirst wLast opens closes same pFirst pLast inside =>
    have other : ∀ name ∈ inlineNames, name ≠ quoteName := by decide
    apply Nested.element wFirst wLast opens closes same (placed _ inline pFirst)
      (placed _ (same ▸ inline) pLast) _ .nil
    exact nested_line (host_cons_of_none flows (other _ inline)) inline inside

/-- Each element ends in its last tag. -/
theorem last_of_isElement (element : IsElement postModel outer name parts) :
    (sourceOf parts).getLast? = some '>' := by
  cases element with
  | void written _ _ => simpa [Piece.source] using written.getLast?_source
  | normal _ written _ _ _ _ _ _ => simp [Piece.source, List.getLast?_append, written.getLast?_source]

/-- Pieces that are left in pieces belong to one text. -/
theorem blocks_map_plain (nonempty : parts ≠ []) (rest : List Segment) :
    blocks (parts.map .plain ++ rest) = prependText (sourceOf parts) (blocks rest) := by
  induction parts with
  | nil => exact absurd rfl nonempty
  | cons piece others ih =>
    rw [List.map_cons, List.cons_append, blocks_plain]
    cases others with
    | nil => simp
    | cons next more => rw [ih (by simp), sourceOf_cons piece, prependText_append]

/-- Markup without blocks is one text. -/
theorem blocksOf_of_ignored {markup : List Char}
    (ignored : ∀ tag, .tag tag ∈ pieces markup → blockElements.Ignores tag) (nonempty : markup ≠ []) :
    blocksOf markup = [.text markup] := by
  have plain := segments_plain ignored []
  rw [List.append_nil] at plain
  have none : segments blockElements [] = [] := by rw [segments]
  have filled : pieces markup ≠ [] := by
    intro empty
    have source := source_pieces markup
    rw [empty, sourceOf_nil] at source
    exact nonempty source.symm
  rw [blocksOf, plain, none, blocks_map_plain filled, source_pieces]
  simp [blocks, prependText]

theorem fits_prependText {list : List Block} (grows : ∀ markup, Lines outer markup →
      Lines outer (text ++ markup)) (each : ∀ block ∈ list, block.Fits outer) :
    ∀ block ∈ prependText text list, block.Fits outer := by
  have alone : Lines outer text := by simpa using grows [] .nil
  cases list with
  | nil => exact List.forall_mem_singleton.mpr alone
  | cons first others =>
    cases first with
    | text markup =>
      obtain ⟨fits, further⟩ := List.forall_mem_cons.mp each
      exact List.forall_mem_cons.mpr ⟨grows markup fits, further⟩
    | element name markup => exact List.forall_mem_cons.mpr ⟨alone, each⟩

/-- An element in flow is a block, or it belongs to the text between blocks. -/
theorem knows_or_ignored (flows : InFlow outer) (element : IsElement postModel outer name parts) :
    (blockElements.Knows name ∧ (name ∈ blockNames ∨ name = quoteName)) ∨
      (∀ tag, .tag tag ∈ parts → blockElements.Ignores tag) ∧ name ∈ inlineNames := by
  have known : ∀ name ∈ quoteName :: blockNames, blockElements.Knows name := by
    unfold ElementNames.Knows
    decide
  have ignored : ∀ name ∈ inlineNames,
      blockElements.isVoid name = false ∧ blockElements.isNormal name = false := by decide
  obtain ⟨tag, rfl, _, _, _, placed⟩ := element.permitted
  rw [show host outer = none from flows] at placed
  have quote (same : tag.name = quoteName) : blockElements.Knows tag.name ∧
      (tag.name ∈ blockNames ∨ tag.name = quoteName) :=
    ⟨same ▸ known quoteName List.mem_cons_self, .inr same⟩
  rcases placed with inline | block | rfl | rfl
  · refine .inr ⟨fun inner member => .inr ?_, inline⟩
    obtain ⟨_, _, inline', _⟩ := (nested_inlineElement flows inline element).exists_permitted member
    exact ignored inner.name inline'
  · exact .inl ⟨known _ (List.mem_cons_of_mem _ block), .inl block⟩
  · exact .inl (quote rfl)
  · exact .inl (quote rfl)

/-- Markup in flow is divided into characters, inline elements and blocks. -/
theorem divided_blocks (flows : InFlow outer) (nested : Nested postModel outer parts) :
    Divided (postModel.char outer)
      (fun inner => Nested lineModel outer inner ∧ (sourceOf inner).getLast? = some '>')
      (fun name inner => IsElement postModel outer name inner ∧ (name ∈ blockNames ∨ name = quoteName))
      parts (segments blockElements parts) := by
  apply divided_segments nested
  intro name inner element
  rcases knows_or_ignored flows element with ⟨known, block⟩ | ⟨ignored, inline⟩
  · exact .inl ⟨known, element, block⟩
  · exact .inr ⟨ignored, nested_inlineElement flows inline element, last_of_isElement element⟩

/-- The blocks of markup in flow are lines of inline markup and elements. -/
theorem fits_of_mem_blocksOf {markup : List Char} (flows : InFlow outer)
    (fragment : Fragment postModel outer markup) : ∀ block ∈ blocksOf markup, block.Fits outer := by
  have divided := divided_blocks flows fragment
  unfold blocksOf
  generalize segments blockElements (pieces markup) = parts at divided ⊢
  generalize pieces markup = whole at divided
  induction divided with
  | nil => simp [blocks]
  | char differs _ _ ih =>
    rw [blocks_plain]
    exact fits_prependText (fun _ lines => .char differs lines) ih
  | plain given _ ih =>
    obtain ⟨nested, last⟩ := given
    rw [blocks_map_plain (by rintro rfl; simp at last)]
    exact fits_prependText (fun _ lines => .inline (.of_nested nested) last lines) ih
  | whole given _ ih => exact List.forall_mem_cons.mpr ⟨⟨_, rfl, given⟩, ih⟩

end PostMarkup.Layout
