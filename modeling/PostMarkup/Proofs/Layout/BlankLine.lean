import PostMarkup.Proofs.Layout.Sequence
import PostMarkup.Proofs.Markup.Attribute

/-! # Markup before a blank line

A blank line after properly nested markup keeps what follows apart. Every block that starts before it
ends before it, and the text that waits there is wrapped on its own. So both sides are laid out
independently of each other, whatever the markup after the blank line is.
-/

namespace PostMarkup.Layout

variable {text : List Char} {parts : List Segment}

/-- The end of a text does not end in a carriage return if the text does not. -/
theorem getLast?_ne_of_append {left right : List Char} {c : Char} (last : (left ++ right).getLast? ≠ some c) :
    right.getLast? ≠ some c := by
  intro same
  rw [List.getLast?_append, same] at last
  exact last rfl

/-- What follows a blank line in the text that waits is laid out on its own. -/
theorem layOutFrom_blank (noReturn : text.getLast? ≠ some '\r') (after : List Char) (parts : List Segment) :
    layOutFrom (text ++ '\n' :: '\n' :: after) parts = wrap text ++ layOutFrom after parts := by
  induction parts generalizing after with
  | nil => exact wrap_append_blank noReturn after
  | cons part rest ih =>
    cases part with
    | plain piece => rw [layOutFrom, layOutFrom, List.append_assoc, List.cons_append, List.cons_append, ih]
    | element name pieces => simp only [layOutFrom, wrap_append_blank noReturn, List.append_assoc]

/-- Segments on either side of a blank line are laid out on their own. -/
theorem layOutFrom_append_blank (noReturn : (text ++ parts.flatMap Segment.source).getLast? ≠ some '\r')
    (after : List Segment) :
    layOutFrom text (parts ++ .plain (.char '\n') :: .plain (.char '\n') :: after) =
      layOutFrom text parts ++ layOutFrom [] after := by
  induction parts generalizing text with
  | nil =>
    rw [List.flatMap_nil, List.append_nil] at noReturn
    have blank := layOutFrom_blank noReturn [] after
    simpa [layOutFrom, Piece.source] using blank
  | cons part rest ih =>
    rw [List.flatMap_cons, ← List.append_assoc] at noReturn
    cases part with
    | plain piece => exact ih noReturn
    | element name pieces =>
      have later : layOutFrom [] (rest ++ _) = _ := ih (getLast?_ne_of_append noReturn)
      rw [List.cons_append, layOutFrom, layOutFrom, later]
      simp only [List.append_assoc]

/-- Paragraphs are independent: properly nested markup whose tags are complete and what stands after a blank line
are laid out as they are on their own, even if what follows is not properly nested. Only a carriage return
at the end would be read together with the blank line. -/
theorem inParagraphs_append_blank (voids : List (List Char)) (forest : ElementForest)
    (known : ∀ listed ∈ blockElements.void, listed.toList ∈ voids)
    (normal : ∀ listed ∈ blockElements.normal, listed.toList ∉ voids) (nested : forest.IsNested voids)
    (complete : IsComplete forest.pieces) (noReturn : forest.source.getLast? ≠ some '\r') (after : List Char) :
    inParagraphs (forest.source ++ "\n\n".toList ++ after) =
      inParagraphs forest.source ++ inParagraphs after := by
  have blank : segments blockElements (pieces ('\n' :: '\n' :: after)) =
      .plain (.char '\n') :: .plain (.char '\n') :: segments blockElements (pieces after) := by
    rw [pieces_of_ne (by decide), pieces_of_ne (by decide), segments, segments]
  have apart : ([] ++ (forest.segments blockElements).flatMap Segment.source).getLast? ≠ some '\r' := by
    rwa [List.nil_append, ElementForest.source_segments]
  have cut : segments blockElements (pieces (forest.source ++ '\n' :: '\n' :: after)) =
      forest.segments blockElements ++ .plain (.char '\n') :: .plain (.char '\n') ::
        segments blockElements (pieces after) := by
    rw [segments_source_append known normal nested complete, blank]
  rw [List.append_assoc, inParagraphs_eq_layOutFrom, inParagraphs_source known normal nested complete,
    inParagraphs_eq_layOutFrom]
  exact cut ▸ layOutFrom_append_blank apart _

/-- A list in a list and a `<` that starts no tag, before a closing tag and a tag that does not end. -/
theorem inParagraphs_append_blank_open :
    let voids := ["br".toList, "hr".toList, "img".toList]
    let list (body rest : ElementForest) : ElementForest :=
      .element (.opening "ul".toList []) (.stop "ul".toList) body rest
    let forest := list (.char '\n' (list .nil .nil)) (.char '<' (.char ' ' (.char 'b' .nil)))
    let after := "</ul><ul".toList
    (∀ listed ∈ blockElements.void, listed.toList ∈ voids) ∧
      (∀ listed ∈ blockElements.normal, listed.toList ∉ voids) ∧ forest.IsNested voids ∧
      IsComplete forest.pieces ∧ forest.source.getLast? ≠ some '\r' ∧
      forest.source = "<ul>\n<ul></ul></ul>< b".toList ∧
      inParagraphs (forest.source ++ "\n\n".toList ++ after) = inParagraphs forest.source ++ inParagraphs after := by
  intro voids list forest after
  have known : ∀ listed ∈ blockElements.void, listed.toList ∈ voids := by decide
  have normal : ∀ listed ∈ blockElements.normal, listed.toList ∉ voids := by decide
  have opens : (Tag.opening "ul".toList []).IsWritten ∧ (Tag.stop "ul".toList).IsWritten :=
    ⟨Tag.opening_isWritten (by decide) (by simp), Tag.stop_isWritten (by decide)⟩
  have nested : forest.IsNested voids := by
    simp [forest, list, voids, ElementForest.IsNested, Tag.opening, Tag.start, Tag.stop]
  have complete : IsComplete forest.pieces := by
    have unread (rest : List Char) : Tag.read? ('<' :: ' ' :: rest) = none := by
      have word : ' '.isAlphanum = false := by decide
      rw [Tag.read?_less (by decide), Tag.readName?]
      simp [word]
    have plain (c : Char) (differs : c ≠ '<') (rest : List Char) : Tag.read? (c :: rest) = none :=
      Tag.read?_of_ne differs rest
    exact ⟨opens.1, fun _ => plain _ (by decide) _, opens.1, opens.2, opens.2, fun _ => unread _,
      fun _ => plain _ (by decide) _, fun _ => plain _ (by decide) _, trivial⟩
  have noReturn : forest.source.getLast? ≠ some '\r' := by decide
  exact ⟨known, normal, nested, complete, noReturn, by decide,
    inParagraphs_append_blank voids forest known normal nested complete noReturn after⟩

end PostMarkup.Layout
