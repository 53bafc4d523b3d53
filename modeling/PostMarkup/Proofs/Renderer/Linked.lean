import PostMarkup.Proofs.Entity.Substitution
import PostMarkup.Proofs.Link
import PostMarkup.Proofs.LinkTarget.HeldDocument
import PostMarkup.Renderer

/-! # Linking a held document

Every outermost element of a held document is left alone. So what is linked stands between boundaries
and outside links, and the linked document is a fragment.
-/

namespace PostMarkup.Renderer

open PostMarkup.Entity PostMarkup.LinkTarget PostMarkup.Markdown

variable {outer : List (List Char)} {source : List Char}

theorem fragment_of_held {markup : List Char} (fragment : Fragment heldModel outer markup) :
    Fragment postModel outer markup := by
  apply Fragment.mono ?_ ?_ fragment
  · rintro outer c _ permitted
    exact permitted
  · rintro outer _ ⟨⟨tag, rendered, rfl⟩, placed⟩
    exact ⟨held_isCarried rendered, placed⟩

def renderedNames : List (List Char) :=
  imageName :: "br".toList :: "hr".toList :: linkName :: elementNames

theorem name_of_rendered {tag : Tag} (rendered : RenderedTag tag) : tag.name ∈ renderedNames := by
  have within : ∀ name ∈ linkName :: elementNames, name ∈ renderedNames := by decide
  cases rendered with
  | opening member => exact within _ (List.mem_cons_of_mem _ member)
  | stop member => exact within _ member
  | @single name member =>
    exact (by decide : ∀ name ∈ ["br".toList, "hr".toList], name ∈ renderedNames) name member
  | code line => exact within "code".toList (by decide)
  | link sound => exact within linkName (by decide)
  | image sound => exact (by decide : imageName ∈ renderedNames)

/-- The outermost elements of a held document are left alone. -/
theorem knows_of_outermost {tag : Tag} (permitted : heldModel.tag [] tag) :
    finishedElements.Knows tag.name := by
  obtain ⟨⟨original, rendered, rfl⟩, _, _, placed⟩ := permitted
  have placed' : (held original).name ∈ quoteName :: (inlineNames ++ blockNames) := by
    have outermost : host [] = none := rfl
    simp only [outermost] at placed
    rcases placed with inline | block | quote | quote
    · exact List.mem_cons_of_mem _ (List.mem_append_left _ inline)
    · exact List.mem_cons_of_mem _ (List.mem_append_right _ block)
    · rw [quote]
      exact List.mem_cons_self
    · rw [quote]
      exact List.mem_cons_self
  have known : ∀ name ∈ renderedNames, name ∈ quoteName :: (inlineNames ++ blockNames) →
      finishedElements.Knows name := by
    unfold ElementNames.Knows
    decide
  exact known original.name (name_of_rendered rendered) placed'

/-- A held document is divided into characters and elements that are left alone. -/
theorem divided_held (fragment : RenderedFragment [] source) :
    Divided (heldModel.char []) (fun _ => False) (IsElement heldModel [])
      (pieces (encode source)) (segments finishedElements (pieces (encode source))) := by
  apply divided_segments (fragment_encode fragment)
  intro name inner element
  obtain ⟨tag, rfl, permitted⟩ := element.permitted
  exact .inl ⟨knows_of_outermost permitted, element⟩

/-- An element that is left alone is left alone as a whole. -/
theorem linkMarkup_of_element {renderer : Renderer} {resolver : Resolver} {model : ContentModel} {name : List Char}
    {parts : List Piece} (element : IsElement model [] name parts) (known : finishedElements.Knows name) :
    renderer.linkMarkup resolver (sourceOf parts) = .ok (sourceOf parts) := by
  have spans : outermostSpans finishedElements (sourceOf parts) = [⟨0, (sourceOf parts).length⟩] := by
    have whole := segments_known element known []
    rw [List.append_nil] at whole
    simp [outermostSpans, element.nested.pieces_sourceOf, whole, segments, elementSpans]
  have positive : 0 < (sourceOf parts).length := (bounds_of_mem_outermostSpans (spans ▸ List.mem_cons_self)).1
  have finished : extractFinished (sourceOf parts) = [⟨.markup, ⟨0, (sourceOf parts).length⟩⟩] := by
    rw [extractFinished, spans]
    rfl
  have alone (bare : Bool) : extractRendered bare (sourceOf parts) = extractFinished (sourceOf parts) := by
    rw [extractRendered, List.filter_eq_nil_iff.mpr, List.append_nil]
    intro entity found
    have stands := standsIn_of_mem_extract found
    have order := stands.order
    have stop := stands.stop
    rw [Nat.zero_add] at stop
    have overlap : (⟨0, (sourceOf parts).length⟩ : Span).overlaps entity.span = true := by
      simp only [Span.overlaps, Bool.and_eq_true, decide_eq_true_eq]
      omega
    simp [finished, overlap]
  simp only [linkMarkup, alone, finished, substitute, inOrder, List.mergeSort_singleton]
  rw [substituteFrom]
  simp [Span.isEmpty, Nat.ne_of_lt positive, substituteFrom, TextForm.markup, Link.entity, bind, Except.bind]
  rfl

section Linking

variable {isAddress : List Char → Bool} {settings : Settings} {resolver : Resolver} {entity : Entity}

/-- An element that is left alone may be replaced by itself. -/
theorem replaceable_of_finished (fragment : RenderedFragment [] source)
    (member : entity ∈ extractFinished (encode source)) :
    Replaceable heldModel postModel [] (encode source) (Link.entity isAddress settings resolver) entity := by
  obtain ⟨span, inside, rfl⟩ := List.mem_map.mp member
  have bounded := bounded_of_mem_elementSpans (divided_held fragment)
    (fun _ _ element => element.nested) 0 inside
  rw [source_pieces] at bounded
  obtain ⟨first, last, rfl, order, start, stop⟩ := bounded
  simp only [Nat.zero_add]
  exact ⟨order, start, stop, fragment_of_held (start.between stop order)⟩

/-- What stands outside all elements that are left alone may be replaced by a link. -/
theorem replaceable_of_outside (fragment : RenderedFragment [] source) {bare : Bool}
    (base : '\n' ∉ settings.baseUrl)
    (known : ∀ name account, resolver name = some account →
      '\n' ∉ account.username ∧ '\n' ∉ account.url)
    (found : entity ∈ extract .html bare (encode source))
    (outside : ∀ element ∈ extractFinished (encode source),
      element.span.overlaps entity.span = false) :
    Replaceable heldModel postModel [] (encode source) (Link.entity isAddress settings resolver) entity := by
  have stands := standsIn_of_mem_extract found
  have boundary (position : Nat) (inside : position ≤ (encode source).length)
      (apart : ∀ element ∈ extractFinished (encode source),
        position ≤ element.span.start ∨ element.span.stop ≤ position) :
      IsBoundary heldModel [] (encode source) position := by
    have at' := isBoundary_of_outside (divided_held fragment) (fun _ _ element => element.nested) 0
      position (by rwa [source_pieces]) fun span member => by
        rw [Nat.zero_add]
        exact apart ⟨.markup, span⟩ (List.mem_map_of_mem member)
    rwa [source_pieces] at at'
  have apart (element : Entity) (member : element ∈ extractFinished (encode source)) :
      entity.span.stop ≤ element.span.start ∨ element.span.stop ≤ entity.span.start := by
    have disjoint := outside element member
    simp only [Span.overlaps, Bool.and_eq_false_iff, decide_eq_false_iff_not, Nat.not_lt] at disjoint
    exact disjoint
  have order := stands.order
  have inside := stands.stop
  refine ⟨Nat.le_of_lt order, ?_, ?_, ?_⟩
  · apply boundary _ (by omega)
    intro element member
    rcases apart element member with before | after
    · exact .inl (by omega)
    · exact .inr after
  · apply boundary _ (by omega)
    intro element member
    rcases apart element member with before | after
    · exact .inl before
    · exact .inr (by omega)
  · exact Link.fragment_entity base known (by simp) (stands.read.onLine (noNumerals_encode fragment))

/-- Linking a held document gives a fragment. -/
theorem fragment_linkMarkup {renderer : Renderer} (fragment : RenderedFragment [] source)
    (base : '\n' ∉ renderer.settings.baseUrl)
    (known : ∀ name account, resolver name = some account →
      '\n' ∉ account.username ∧ '\n' ∉ account.url) :
    ∃ linked, renderer.linkMarkup resolver (encode source) = .ok linked ∧
      Fragment postModel [] linked := by
  apply fragment_substitute (fragment_encode fragment) fun _ => fragment_of_held
  intro entity member
  rcases List.mem_append.mp member with finished | found
  · exact replaceable_of_finished fragment finished
  · obtain ⟨extracted, apart⟩ := List.mem_filter.mp found
    apply replaceable_of_outside fragment base known extracted
    simpa using apart

end Linking

end PostMarkup.Renderer
