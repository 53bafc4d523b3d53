import PostMarkup.LinkTarget
import PostMarkup.Proofs.Markup.Attribute
import PostMarkup.Proofs.Text.Lines

/-! # Encoding and decoding piece by piece

A tag whose only angle brackets are those at its ends reaches to the next `>`. So markup of such
tags is encoded and decoded one tag at a time.
-/

namespace PostMarkup

open PostMarkup.Text

/-- Pieces that are cut out of markup as themselves, with compact tags. -/
def Piece.IsCompact : Piece → Prop
  | .tag written => written.IsCompact
  | .char c => c ≠ '<'

/-- The pieces of a fragment of compact tags are compact. -/
theorem Fragment.isCompact {model : ContentModel} {outer : List (List Char)} {markup : List Char}
    (fragment : Fragment model outer markup) (compact : ∀ outer tag, model.tag outer tag → tag.IsCompact) :
    ∀ part ∈ pieces markup, part.IsCompact := by
  intro part member
  cases part with
  | char c => exact Nested.isWritten fragment _ member
  | tag tag =>
    obtain ⟨_, permitted⟩ := Nested.exists_permitted fragment member
    exact compact _ _ permitted

namespace LinkTarget

def Stretch.ofPiece : Piece → Stretch
  | .char c => .char c
  | .tag written => .tag written.source

variable {parts : List Piece}

theorem stretches_of_ne {c : Char} (differs : c ≠ '<') (rest : List Char) :
    stretches (c :: rest) = .char c :: stretches rest := by
  rw [stretches, if_neg differs]

theorem stretches_of_compact {tag : Tag} (compact : tag.IsCompact) (rest : List Char) :
    stretches (tag.source ++ rest) = .tag tag.source :: stretches rest := by
  obtain ⟨inner, source, _, clean⟩ := compact
  have cut : cutAt? '>' (inner ++ '>' :: rest) = some (inner, rest) := cutAt?_of_not_mem clean
  rw [source, List.cons_append, List.append_assoc, List.singleton_append, stretches, if_pos rfl]
  split
  · rename_i before after found
    rw [cut] at found
    simp only [Option.some.injEq, Prod.mk.injEq] at found
    simp [← found.1, ← found.2]
  · rename_i found
    simp [cut] at found

/-- The stretches of markup are its pieces if all tags are compact. -/
theorem stretches_sourceOf (compact : ∀ part ∈ parts, part.IsCompact) :
    stretches (sourceOf parts) = parts.map Stretch.ofPiece := by
  induction parts with
  | nil => simp [stretches]
  | cons part rest ih =>
    obtain ⟨first, others⟩ := List.forall_mem_cons.mp compact
    rw [sourceOf_cons, List.map_cons, ← ih others]
    cases part with
    | tag tag => exact stretches_of_compact (show tag.IsCompact from first) _
    | char c => exact stretches_of_ne (show c ≠ '<' from first) _

/-- A tag as it is held while other stages work on the markup. -/
def heldSource (tag : Tag) : List Char :=
  if isMarked tag.source then encodeTag tag.source else tag.source

theorem encode_sourceOf (compact : ∀ part ∈ parts, part.IsCompact) :
    encode (sourceOf parts) = sourceOf (parts.map (Piece.rewrite heldSource)) := by
  rw [encode, stretches_sourceOf compact, sourceOf, List.flatMap_map, List.flatMap_map]
  congr 1
  funext part
  cases part <;> rfl

def decodeStretch : Stretch → Except Fault (List Char)
  | .char c => .ok [c]
  | .tag source => decodeTag source

theorem mapM_decodeStretch (restored : Tag → List Char)
    (each : ∀ tag, .tag tag ∈ parts → decodeTag tag.source = .ok (restored tag)) :
    (parts.map Stretch.ofPiece).mapM decodeStretch =
      .ok (parts.map fun part => (part.rewrite restored).source) := by
  induction parts with
  | nil => rfl
  | cons part rest ih =>
    have further := ih fun tag member => each tag (List.mem_cons_of_mem _ member)
    have first : decodeStretch (Stretch.ofPiece part) = .ok (part.rewrite restored).source := by
      cases part with
      | tag tag => exact each tag (List.mem_cons_self ..)
      | char c => rfl
    rw [List.map_cons, List.mapM_cons, first, further]
    rfl

/-- Markup is decoded if each of its tags is. -/
theorem decode_sourceOf (compact : ∀ part ∈ parts, part.IsCompact) (restored : Tag → List Char)
    (each : ∀ tag, .tag tag ∈ parts → decodeTag tag.source = .ok (restored tag)) :
    decode (sourceOf parts) = .ok (sourceOf (parts.map (Piece.rewrite restored))) := by
  have whole : decode (sourceOf parts) =
      (fun pieces => pieces.flatten) <$> (stretches (sourceOf parts)).mapM decodeStretch := by
    unfold decode
    congr 2
  rw [whole, stretches_sourceOf compact, mapM_decodeStretch restored each, sourceOf,
    List.flatMap_map]
  rfl

end LinkTarget

end PostMarkup
