import PostMarkup.Proofs.Markup.Forest

/-! # Outermost elements of nested markup

In properly nested pieces an element of a known name is cut out from its opening tag to the closing
tag that matches it, and a piece without tags of known names is left in pieces.
-/

namespace PostMarkup

variable {model : ContentModel} {outer : List (List Char)} {parts rest : List Piece}
  {name : List Char} {names : ElementNames}

/-- Properly nested pieces are passed over in the search for a closing tag. -/
theorem untilClosed?_nested (nested : Nested model outer parts) (normal : name ∉ voidNames)
    (depth : Nat) (rest : List Piece) : untilClosed? name depth (parts ++ rest) =
      (untilClosed? name depth rest).map fun (inner, after) => (parts ++ inner, after) := by
  obtain ⟨forest, rfl, inside⟩ := nested.exists_forest
  exact ElementForest.untilClosed?_pieces inside normal depth rest

def ElementNames.Ignores (names : ElementNames) (tag : Tag) : Prop :=
  tag.closing = true ∨ names.isVoid tag.name = false ∧ names.isNormal tag.name = false

/-- Pieces without tags of known names are left in pieces. -/
theorem segments_plain (ignored : ∀ tag, .tag tag ∈ parts → names.Ignores tag) (rest : List Piece) :
    segments names (parts ++ rest) = parts.map .plain ++ segments names rest := by
  induction parts with
  | nil => rfl
  | cons part others ih =>
    have further := ih fun tag member => ignored tag (List.mem_cons_of_mem _ member)
    cases part with
    | char c => rw [List.cons_append, segments, further, List.map_cons, List.cons_append]
    | tag tag =>
      rw [List.cons_append, segments]
      rcases ignored tag List.mem_cons_self with closes | ⟨notVoid, notNormal⟩
      · rw [if_pos closes, further, List.map_cons, List.cons_append]
      · simp only [notVoid, notNormal, Bool.false_and, Bool.false_eq_true, if_false, ite_self, further,
          List.map_cons, List.cons_append]

/-- An element of a known name is cut out to its closing tag. -/
theorem segments_element {first last : Tag} (opens : first.Opens)
    (closes : last.closing = true) (same : last.name = first.name)
    (nested : Nested model outer parts) (notVoid : names.isVoid first.name = false)
    (known : names.isNormal first.name = true) (rest : List Piece) :
    segments names (.tag first :: (parts ++ .tag last :: rest)) =
      .element first.name (.tag first :: (parts ++ [.tag last])) :: segments names rest := by
  have found : untilClosed? first.name 0 (parts ++ .tag last :: rest) =
      some (parts ++ [.tag last], rest) := by
    rw [untilClosed?_nested nested opens.2.2, untilClosed?_last ⟨same, closes⟩]
    rfl
  rw [segments, if_neg (by simp [opens.1]), if_neg (by simp [notVoid]),
    if_pos (by simp [known, opens.2.1])]
  split
  · rename_i inner after closed
    rw [found] at closed
    cases closed
    rfl
  · rename_i unclosed
    exact absurd unclosed (by simp [found])

/-- The pieces of one element that stands inside the elements `outer`. -/
inductive IsElement (model : ContentModel) (outer : List (List Char)) : List Char → List Piece → Prop
  | void {tag : Tag} : tag.IsWritten → tag.IsVoid → model.tag outer tag →
      IsElement model outer tag.name [.tag tag]
  | normal {first last : Tag} {body : List Piece} : first.IsWritten → last.IsWritten → first.Opens →
      last.closing = true → last.name = first.name → model.tag outer first → model.tag outer last →
      Nested model (first.name :: outer) body →
      IsElement model outer first.name (.tag first :: (body ++ [.tag last]))

theorem IsElement.nested (element : IsElement model outer name parts) : Nested model outer parts := by
  cases element with
  | void written void permitted => exact .void written void permitted .nil
  | normal wFirst wLast opens closes same pFirst pLast inside =>
    exact .element wFirst wLast opens closes same pFirst pLast inside .nil

theorem IsElement.permitted (element : IsElement model outer name parts) :
    ∃ tag, tag.name = name ∧ model.tag outer tag := by
  cases element with
  | void _ _ permitted => exact ⟨_, rfl, permitted⟩
  | normal _ _ _ _ _ permitted _ _ => exact ⟨_, rfl, permitted⟩

/-- Whether elements of a name are looked for, as void elements if they are void. -/
def ElementNames.Knows (names : ElementNames) (name : List Char) : Prop :=
  names.isVoid name = decide (name ∈ voidNames) ∧ (name ∉ voidNames → names.isNormal name = true)

/-- Pieces divided into segments: characters, runs that are left in pieces, and elements. -/
inductive Divided (chars : Char → Prop) (plain : List Piece → Prop)
    (whole : List Char → List Piece → Prop) : List Piece → List Segment → Prop
  | nil : Divided chars plain whole [] []
  | char {c : Char} {rest : List Piece} {further : List Segment} : c ≠ '<' → chars c →
      Divided chars plain whole rest further →
      Divided chars plain whole (.char c :: rest) (.plain (.char c) :: further)
  | plain {inner rest : List Piece} {further : List Segment} : plain inner →
      Divided chars plain whole rest further →
      Divided chars plain whole (inner ++ rest) (inner.map .plain ++ further)
  | whole {name : List Char} {inner rest : List Piece} {further : List Segment} : whole name inner →
      Divided chars plain whole rest further →
      Divided chars plain whole (inner ++ rest) (.element name inner :: further)

theorem segments_known (element : IsElement model outer name parts) (known : names.Knows name)
    (rest : List Piece) : segments names (parts ++ rest) = .element name parts :: segments names rest := by
  cases element with
  | void _ void _ =>
    apply segments_void void.1
    rw [known.1]
    exact decide_eq_true void.2
  | normal _ _ opens closes same _ _ inside =>
    rw [List.cons_append, List.append_assoc]
    apply segments_element opens closes same inside
    · rw [known.1]
      exact decide_eq_false opens.2.2
    · exact known.2 opens.2.2

/-- Nested pieces are divided into characters and elements, of which some are left in pieces. -/
theorem divided_segments {plain : List Piece → Prop} {whole : List Char → List Piece → Prop}
    (nested : Nested model outer parts)
    (each : ∀ name inner, IsElement model outer name inner → (names.Knows name ∧ whole name inner) ∨
      ((∀ tag, .tag tag ∈ inner → names.Ignores tag) ∧ plain inner)) :
    Divided (model.char outer) plain whole parts (segments names parts) := by
  have step (name : List Char) (inner rest : List Piece) (element : IsElement model outer name inner)
      (further : Divided (model.char outer) plain whole rest (segments names rest)) :
      Divided (model.char outer) plain whole (inner ++ rest) (segments names (inner ++ rest)) := by
    rcases each name inner element with ⟨known, given⟩ | ⟨ignored, given⟩
    · rw [segments_known element known]
      exact .whole given further
    · rw [segments_plain ignored]
      exact .plain given further
  induction nested with
  | nil =>
    rw [segments]
    exact .nil
  | char differs permitted _ ih =>
    rw [segments]
    exact .char differs permitted (ih each step)
  | void written void permitted _ ih =>
    exact step _ _ _ (.void written void permitted) (ih each step)
  | @element _ first last body rest wFirst wLast opens closes same pFirst pLast inside _ _ ihRest =>
    have shape : .tag first :: (body ++ .tag last :: rest) =
        .tag first :: (body ++ [.tag last]) ++ rest := by simp
    rw [shape]
    exact step _ _ _ (.normal wFirst wLast opens closes same pFirst pLast inside) (ihRest each step)

/-- A piece of a text holds at least one character. -/
theorem length_pos_of_mem_pieces {text : List Char} {part : Piece} (member : part ∈ pieces text) :
    0 < part.source.length := by
  fun_induction pieces text with
  | case1 => exact absurd member (by simp)
  | case2 c rest tag read ih =>
    rcases List.mem_cons.mp member with rfl | later
    · obtain ⟨_, _, positive⟩ := Tag.read?_source read
      exact positive
    · exact ih later
  | case3 c rest _ ih =>
    rcases List.mem_cons.mp member with rfl | later
    · exact Nat.one_pos
    · exact ih later

/-- An element among segments starts with one of the tags. -/
theorem exists_tag_of_element {inner : List Piece} (member : .element name inner ∈ segments names parts) :
    ∃ tag others, inner = .tag tag :: others ∧ .tag tag ∈ parts := by
  have later {first : Piece} {rest : List Piece} (found : ∃ tag others, inner = .tag tag :: others ∧ .tag tag ∈ rest) :
      ∃ tag others, inner = .tag tag :: others ∧ .tag tag ∈ first :: rest := by
    obtain ⟨tag, others, same, listed⟩ := found
    exact ⟨tag, others, same, List.mem_cons_of_mem _ listed⟩
  fun_induction segments names parts with
  | case1 => exact absurd member (by simp)
  | case2 c rest ih => exact later (ih (by simpa using member))
  | case3 tag rest closing ih => exact later (ih (by simpa using member))
  | case4 tag rest opens void ih =>
    rcases List.mem_cons.mp member with same | member
    · obtain ⟨_, rfl⟩ := Segment.element.inj same
      exact ⟨tag, [], rfl, List.mem_cons_self⟩
    · exact later (ih member)
  | case5 tag rest opens notVoid paired within after found ih =>
    rcases List.mem_cons.mp member with same | member
    · obtain ⟨_, rfl⟩ := Segment.element.inj same
      exact ⟨tag, within, rfl, List.mem_cons_self⟩
    · obtain ⟨first, others, same, listed⟩ := ih member
      refine ⟨first, others, same, List.mem_cons_of_mem _ ?_⟩
      rw [eq_of_untilClosed? found]
      exact List.mem_append_right _ listed
  | case6 tag rest opens notVoid paired unclosed ih => exact later (ih (by simpa using member))
  | case7 tag rest opens notVoid other ih => exact later (ih (by simpa using member))

/-- The span of an element among segments is not empty and ends inside the text. -/
theorem bounds_of_mem_elementSpans {segments : List Segment} {position : Nat} {span : Span}
    (filled : ∀ name inner, .element name inner ∈ segments → 0 < (sourceOf inner).length)
    (member : span ∈ elementSpans position segments) :
    span.start < span.stop ∧ span.stop ≤ position + (segments.flatMap Segment.source).length := by
  induction segments generalizing position with
  | nil => exact absurd member (by simp [elementSpans])
  | cons segment rest ih =>
    have later := fun name inner inside => filled name inner (List.mem_cons_of_mem _ inside)
    rw [List.flatMap_cons, List.length_append]
    cases segment with
    | plain piece =>
      obtain ⟨order, bound⟩ := ih later member
      exact ⟨order, by simp only [Segment.source]; omega⟩
    | element name inner =>
      have positive := filled name inner List.mem_cons_self
      rcases List.mem_cons.mp member with rfl | member
      · exact ⟨by simp only; omega, by simp only [Segment.source]; omega⟩
      · obtain ⟨order, bound⟩ := ih later member
        exact ⟨order, by simp only [Segment.source]; omega⟩

/-- The span of an outermost element of a text is not empty and ends inside the text. -/
theorem bounds_of_mem_outermostSpans {text : List Char} {span : Span} (member : span ∈ outermostSpans names text) :
    span.start < span.stop ∧ span.stop ≤ text.length := by
  have filled (name : List Char) (inner : List Piece) (element : .element name inner ∈ segments names (pieces text)) :
      0 < (sourceOf inner).length := by
    obtain ⟨tag, others, rfl, listed⟩ := exists_tag_of_element element
    have positive := length_pos_of_mem_pieces listed
    rw [sourceOf_cons, List.length_append]
    omega
  have bounds := bounds_of_mem_elementSpans filled member
  rwa [source_segments, source_pieces, Nat.zero_add] at bounds

end PostMarkup
