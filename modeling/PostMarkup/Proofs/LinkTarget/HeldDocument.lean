import PostMarkup.Proofs.LinkTarget.Carried

/-! # Documents whose link targets are held

Encoding a rendered document changes its tags only. The result is a fragment in flow of the tags as
they are held, and no ampersand in it starts a reference by a numeral.
-/

namespace PostMarkup.LinkTarget

open PostMarkup.Markdown

def IsHeld (tag : Tag) : Prop := ∃ rendered, RenderedTag rendered ∧ tag = held rendered

/-- Rendered tags in flow as they are held. -/
def heldModel : ContentModel := flow IsHeld fun _ => True

variable {outer : List (List Char)} {markup : List Char} {parts : List Piece} {tag : Tag}

theorem heldModel_tag (rendered : RenderedTag tag) (permitted : documentModel.tag outer tag) :
    heldModel.tag outer (held tag) := by
  obtain ⟨_, _, apart, placed⟩ := permitted
  refine ⟨⟨tag, rendered, rfl⟩, (held_of_rendered rendered).2.1, apart, ?_⟩
  cases around : host outer with
  | some found =>
    simp only [around] at placed
    exact placed
  | none =>
    simp only [around] at placed
    rcases placed with inline | block | quote
    · exact .inl inline
    · exact .inr (.inl block)
    · refine .inr (.inr ?_)
      have same : ∀ tag ∈ [Tag.start quoteName [], Tag.stop quoteName], held tag = tag := by decide
      rcases quote with rfl | rfl
      · exact .inl (same _ (by simp))
      · exact .inr (same _ (by simp))

/-- A held document is a fragment in flow. -/
theorem fragment_encode (fragment : RenderedFragment outer markup) :
    Fragment heldModel outer (encode markup) := by
  rw [encode_rendered fragment]
  apply Fragment.of_nested
  refine Nested.rewrite heldSource (· = ·) ?_ ?_ ?_ fragment.nested rfl
  · rintro name outer _ rfl
    rfl
  · rintro outer _ c _ rfl permitted
    exact ⟨trivial, permitted.2⟩
  · rintro outer _ tag rfl _ permitted
    exact ⟨(held_of_rendered permitted.1).1, heldModel_tag permitted.1 permitted⟩

/-- Rewriting the tags of a text leaves the ampersands outside tags before the same characters. -/
theorem noNumerals_rewrite {write : Tag → List Char}
    (rewritten : ∀ tag, .tag tag ∈ parts → Tag.IsCompact { tag with source := write tag } ∧
      NoNumerals (write tag)) (plain : NoNumerals (sourceOf parts)) :
    NoNumerals (sourceOf (parts.map (Piece.rewrite write))) := by
  induction parts with
  | nil => exact plain
  | cons part rest ih =>
    have rewritten' := fun tag member => rewritten tag (List.mem_cons_of_mem _ member)
    rw [sourceOf_cons] at plain
    have further := ih rewritten' (NoNumerals.of_append _ _ plain).2
    rw [List.map_cons, sourceOf_cons]
    cases part with
    | tag tag =>
      obtain ⟨⟨inner, source, _⟩, own⟩ := rewritten tag List.mem_cons_self
      apply own.append ?_ further
      simp only at source
      rw [source, ← List.cons_append, List.getLast?_concat]
      decide
    | char c =>
      apply further.cons
      rintro rfl
      cases rest with
      | nil => simp
      | cons next others =>
        rw [List.map_cons, sourceOf_cons]
        cases next with
        | char d => exact plain [] (d :: sourceOf others) rfl
        | tag tag =>
          obtain ⟨⟨inner, source, _⟩, _⟩ := rewritten' tag List.mem_cons_self
          simp only at source
          simp [Piece.rewrite, Piece.source, source]

theorem noNumerals_encode (fragment : RenderedFragment outer markup) : NoNumerals (encode markup) := by
  rw [encode_rendered fragment]
  apply noNumerals_rewrite
  · intro tag member
    have rendered := rendered_of_mem fragment member
    exact ⟨held_isCompact rendered, .of_referencesOnly (held_of_rendered rendered).2.2⟩
  · rw [source_pieces]
    exact .of_referencesOnly fragment.references

end PostMarkup.LinkTarget
