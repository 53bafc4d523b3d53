import PostMarkup.Proofs.Markup.Nesting

/-! # Fragments of markup as texts

The rules of nesting for texts: fragments follow one another, a tag on its own is a fragment if its
element is void, and an opening tag, a fragment inside the element and a closing tag make up a
fragment. `Leads` is the same for texts that open or close elements on the way.
-/

namespace PostMarkup

variable {model : ContentModel} {base outer opened middle final : List (List Char)}
  {left right markup : List Char} {parts : List Piece}

theorem Nested.pieces_sourceOf (nested : Nested model outer parts) :
    pieces (sourceOf parts) = parts := by
  simpa using pieces_sourceOf_append nested.isWritten []

theorem Walk.isWritten (walk : Walk model base opened parts final) :
    ∀ part ∈ parts, part.IsWritten := by
  induction walk with
  | stop => simp
  | char differs _ _ ih => exact List.forall_mem_cons.mpr ⟨differs, ih⟩
  | void written _ _ _ ih => exact List.forall_mem_cons.mpr ⟨written, ih⟩
  | enter written _ _ _ ih => exact List.forall_mem_cons.mpr ⟨written, ih⟩
  | leave written _ _ _ ih => exact List.forall_mem_cons.mpr ⟨written, ih⟩

/-- Markup that leads from some open elements to others, inside the elements `base`. -/
def Leads (model : ContentModel) (base opened : List (List Char)) (markup : List Char)
    (final : List (List Char)) : Prop :=
  Walk model base opened (pieces markup) final

theorem pieces_append (written : ∀ part ∈ pieces left, part.IsWritten) :
    pieces (left ++ right) = pieces left ++ pieces right := by
  conv => lhs; rw [← source_pieces left]
  exact pieces_sourceOf_append written right

namespace Leads

theorem nil : Leads model base opened [] opened := by
  simpa only [Leads, pieces_nil] using Walk.stop

theorem append (first : Leads model base opened left middle)
    (second : Leads model base middle right final) :
    Leads model base opened (left ++ right) final := by
  unfold Leads
  rw [pieces_append (Walk.isWritten first)]
  exact Walk.append first second

theorem of_fragment (fragment : Fragment model (opened ++ base) markup) :
    Leads model base opened markup opened :=
  Walk.of_nested fragment

theorem pieces_of_tag {tag : Tag} (written : tag.IsWritten) : pieces tag.source = [.tag tag] := by
  simpa using pieces_of_isWritten written []

theorem enter {first : Tag} (written : first.IsWritten) (opens : first.Opens)
    (permitted : model.tag (opened ++ base) first) :
    Leads model base opened first.source (first.name :: opened) := by
  unfold Leads
  rw [pieces_of_tag written]
  exact .enter written opens permitted .stop

theorem leave {last : Tag} (written : last.IsWritten) (closes : last.closing = true)
    (permitted : model.tag (opened ++ base) last) :
    Leads model base (last.name :: opened) last.source opened := by
  unfold Leads
  rw [pieces_of_tag written]
  exact .leave written closes permitted .stop

end Leads

theorem fragment_iff_leads : Fragment model base markup ↔ Leads model base [] markup [] :=
  nested_iff_walk

namespace Fragment

theorem of_nested (nested : Nested model outer parts) : Fragment model outer (sourceOf parts) := by
  unfold Fragment
  rwa [nested.pieces_sourceOf]

@[simp] theorem nil : Fragment model outer [] := by
  simpa only [Fragment, pieces_nil] using Nested.nil

theorem cons {c : Char} (differs : c ≠ '<') (permitted : model.char outer c)
    (rest : Fragment model outer markup) : Fragment model outer (c :: markup) := by
  unfold Fragment
  rw [pieces_of_ne differs]
  exact .char differs permitted rest

theorem append (first : Fragment model outer left) (second : Fragment model outer right) :
    Fragment model outer (left ++ right) := by
  unfold Fragment
  rw [pieces_append (Nested.isWritten first)]
  exact Nested.append first second

theorem flatMap {α : Type} {items : List α} {write : α → List Char}
    (each : ∀ item ∈ items, Fragment model outer (write item)) :
    Fragment model outer (items.flatMap write) := by
  induction items with
  | nil => exact nil
  | cons item rest ih =>
    obtain ⟨first, others⟩ := List.forall_mem_cons.mp each
    exact first.append (ih others)

/-- A text without `<` of permitted characters. -/
theorem of_chars {text : List Char} (clean : ∀ c ∈ text, c ≠ '<' ∧ model.char outer c) :
    Fragment model outer text := by
  induction text with
  | nil => exact nil
  | cons c rest ih =>
    obtain ⟨differs, permitted⟩ := clean c (List.mem_cons_self ..)
    exact cons differs permitted (ih fun other member => clean other (List.mem_cons_of_mem _ member))

theorem void {tag : Tag} (written : tag.IsWritten) (isVoid : tag.IsVoid)
    (permitted : model.tag outer tag) : Fragment model outer tag.source := by
  unfold Fragment
  rw [Leads.pieces_of_tag written]
  exact .void written isVoid permitted .nil

/-- An opening tag, a fragment inside its element, and a closing tag. -/
theorem element {first last : Tag} {body : List Char} (wFirst : first.IsWritten)
    (wLast : last.IsWritten) (opens : first.Opens) (closes : last.closing = true)
    (same : last.name = first.name) (pFirst : model.tag outer first) (pLast : model.tag outer last)
    (inside : Fragment model (first.name :: outer) body) :
    Fragment model outer (first.source ++ (body ++ last.source)) := by
  have nested : Nested model outer (.tag first :: (pieces body ++ .tag last :: [])) :=
    .element wFirst wLast opens closes same pFirst pLast inside .nil
  have source : sourceOf (.tag first :: (pieces body ++ .tag last :: [])) =
      first.source ++ (body ++ last.source) := by
    simp [source_pieces, Piece.source]
  exact source ▸ of_nested nested

/-- What follows a fragment in a fragment is a fragment. -/
theorem of_append (whole : Fragment model outer (left ++ right)) (first : Fragment model outer left) :
    Fragment model outer right := by
  unfold Fragment at whole
  rw [pieces_append (Nested.isWritten first)] at whole
  exact Nested.of_append whole first

theorem not_mem {c : Char} (fragment : Fragment model outer markup) (chars : ∀ outer, ¬model.char outer c)
    (tags : ∀ outer tag, model.tag outer tag → c ∉ tag.source) : c ∉ markup := by
  have clean := Nested.not_mem_sourceOf fragment chars tags
  rwa [source_pieces] at clean

theorem mono {model' : ContentModel}
    (chars : ∀ outer c, c ≠ '<' → model.char outer c → model'.char outer c)
    (tags : ∀ outer tag, model.tag outer tag → model'.tag outer tag)
    (fragment : Fragment model outer markup) : Fragment model' outer markup :=
  Nested.mono chars tags fragment

end Fragment

/-- The pieces of an element from its two tags and its content. -/
def elementPieces (first : Tag) (inner : List Piece) (last : Tag) : List Piece := .tag first :: (inner ++ [.tag last])

section Elements

variable {first last : Tag} {inner : List Piece}

theorem sourceOf_elementPieces : sourceOf (elementPieces first inner last) =
    first.source ++ (sourceOf inner ++ last.source) := by
  simp [elementPieces, Piece.source]

theorem forall_mem_elementPieces {holds : Piece → Prop} : (∀ part ∈ elementPieces first inner last, holds part) ↔
    holds (.tag first) ∧ (∀ part ∈ inner, holds part) ∧ holds (.tag last) := by
  simp [elementPieces, or_imp, forall_and]

theorem map_rewrite_elementPieces (write : Tag → List Char) :
    (elementPieces first inner last).map (Piece.rewrite write) =
      elementPieces { first with source := write first } (inner.map (Piece.rewrite write))
        { last with source := write last } := by
  simp [elementPieces, Piece.rewrite]

end Elements

end PostMarkup
