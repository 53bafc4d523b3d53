import PostMarkup.Proofs.Markup.Outermost

/-! # Positions between outermost things

A position in a fragment is a boundary when the text before it is a fragment too, and then so is the
text after it. The outermost elements reach from boundary to boundary, and every position inside
none of them is a boundary.
-/

namespace PostMarkup

/-- Whether a position of a text is one before which everything that is opened is closed. -/
def IsBoundary (model : ContentModel) (outer : List (List Char)) (markup : List Char)
    (position : Nat) : Prop :=
  position ≤ markup.length ∧ Fragment model outer (markup.take position)

namespace IsBoundary

variable {model : ContentModel} {outer : List (List Char)} {markup left right : List Char}
  {position first last : Nat}

theorem zero : IsBoundary model outer markup 0 := by
  constructor
  · exact Nat.zero_le _
  · rw [List.take_zero]
    exact .nil

theorem append (front : Fragment model outer left) (boundary : IsBoundary model outer right position) :
    IsBoundary model outer (left ++ right) (left.length + position) := by
  constructor
  · rw [List.length_append]
    exact Nat.add_le_add_left boundary.1 _
  · rw [List.take_length_add_append]
    exact front.append boundary.2

theorem drop (whole : Fragment model outer markup) (boundary : IsBoundary model outer markup position) :
    Fragment model outer (markup.drop position) := by
  apply Fragment.of_append _ boundary.2
  rwa [List.take_append_drop]

/-- The text between two boundaries is a fragment. -/
theorem between (start : IsBoundary model outer markup first) (stop : IsBoundary model outer markup last)
    (order : first ≤ last) : Fragment model outer ((markup.drop first).take (last - first)) := by
  have shape : markup.take last = markup.take first ++ (markup.drop first).take (last - first) := by
    rw [← List.take_add, Nat.add_sub_cancel' order]
  apply Fragment.of_append _ start.2
  rw [← shape]
  exact stop.2

end IsBoundary

variable {model : ContentModel} {outer : List (List Char)} {parts : List Piece}
  {segments : List Segment} {whole : List Char → List Piece → Prop}

/-- A span from boundary to boundary, where the text starts at `position`. -/
def Bounded (model : ContentModel) (outer : List (List Char)) (markup : List Char) (position : Nat)
    (span : Span) : Prop :=
  ∃ first last, span = ⟨position + first, position + last⟩ ∧ first ≤ last ∧
    IsBoundary model outer markup first ∧ IsBoundary model outer markup last

theorem Bounded.append {left right : List Char} {position : Nat} {span : Span}
    (front : Fragment model outer left)
    (bounded : Bounded model outer right (position + left.length) span) :
    Bounded model outer (left ++ right) position span := by
  obtain ⟨first, last, rfl, order, start, stop⟩ := bounded
  refine ⟨left.length + first, left.length + last, ?_, by omega, .append front start, .append front stop⟩
  rw [Nat.add_assoc, Nat.add_assoc]

/-- The spans of outermost elements reach from boundary to boundary. -/
theorem bounded_of_mem_elementSpans
    (divided : Divided (model.char outer) (fun _ => False) whole parts segments)
    (nested : ∀ name inner, whole name inner → Nested model outer inner) (position : Nat) {span : Span}
    (member : span ∈ elementSpans position segments) :
    Bounded model outer (sourceOf parts) position span := by
  induction divided generalizing position with
  | nil => exact absurd member (by simp [elementSpans])
  | char differs permitted _ ih =>
    exact (ih (position + 1) member).append (.cons differs permitted .nil)
  | plain none => exact none.elim
  | @whole name inner rest further given _ ih =>
    have fragment : Fragment model outer (sourceOf inner) := .of_nested (nested name inner given)
    rw [sourceOf_append]
    rcases List.mem_cons.mp member with rfl | member
    · have stop := IsBoundary.append fragment (.zero : IsBoundary model outer (sourceOf rest) 0)
      exact ⟨0, (sourceOf inner).length, rfl, Nat.zero_le _, .zero, stop⟩
    · exact (ih _ member).append fragment

/-- A position outside all outermost elements is a boundary. -/
theorem isBoundary_of_outside
    (divided : Divided (model.char outer) (fun _ => False) whole parts segments)
    (nested : ∀ name inner, whole name inner → Nested model outer inner) (start position : Nat)
    (inside : position ≤ (sourceOf parts).length)
    (outside : ∀ span ∈ elementSpans start segments,
      start + position ≤ span.start ∨ span.stop ≤ start + position) :
    IsBoundary model outer (sourceOf parts) position := by
  induction divided generalizing start position with
  | nil =>
    obtain rfl : position = 0 := Nat.le_zero.mp inside
    exact .zero
  | @char c rest further differs permitted _ ih =>
    cases position with
    | zero => exact .zero
    | succ position =>
      have front : Fragment model outer [c] := .cons differs permitted .nil
      have rest' : position ≤ (sourceOf rest).length := by
        have sized : (Piece.char c).source.length = 1 := rfl
        rw [sourceOf_cons, List.length_append, sized] at inside
        omega
      have further := ih (start + 1) position rest' fun span member => by
        rcases outside span member with before | after
        · exact .inl (by omega)
        · exact .inr (by omega)
      rw [Nat.add_comm]
      exact further.append front
  | plain none => exact none.elim
  | @whole name inner rest further given _ ih =>
    have fragment : Fragment model outer (sourceOf inner) := .of_nested (nested name inner given)
    rw [sourceOf_append] at inside ⊢
    rcases outside _ List.mem_cons_self with before | after
    · obtain rfl : position = 0 := by
        simp only at before
        omega
      exact .zero
    · obtain ⟨more, rfl⟩ := Nat.exists_eq_add_of_le (Nat.le_of_add_le_add_left after)
      rw [List.length_append] at inside
      apply IsBoundary.append fragment
      apply ih (start + (sourceOf inner).length) more (by omega)
      intro span member
      rcases outside span (List.mem_cons_of_mem _ member) with before | after
      · exact .inl (by omega)
      · exact .inr (by omega)

end PostMarkup
