import PostMarkup.Proofs.Markup.Forest
import PostMarkup.Proofs.Markup.TagSyntax

/-! # The spans of outermost elements

Each element of a forest has a place: where it starts, what is written there, and which elements it
stands in. In the characters of a forest, the scan finds the places of the known elements that stand
in no known element.
-/

namespace PostMarkup

structure PlacedElement where
  name : List Char
  /-- Whether it consists of one tag. -/
  isSingle : Bool
  /-- The names of the elements around it, innermost first. -/
  outer : List (List Char)
  start : Nat
  /-- The characters from the `<` of its first tag to the `>` of its last one. -/
  source : List Char
deriving DecidableEq, Repr

namespace PlacedElement

def span (element : PlacedElement) : Span := ⟨element.start, element.start + element.source.length⟩

/-- Whether an element is looked for. -/
def isKnown (names : ElementNames) (element : PlacedElement) : Bool :=
  if element.isSingle then names.isVoid element.name else names.isNormal element.name

/-- Whether an element is looked for and stands in no other one that is. -/
def isOutermost (names : ElementNames) (element : PlacedElement) : Bool :=
  element.isKnown names && !element.outer.any names.isNormal

end PlacedElement

theorem elementSpans_append (position : Nat) (left right : List Segment) :
    elementSpans position (left ++ right) =
      elementSpans position left ++ elementSpans (position + (left.flatMap Segment.source).length) right := by
  induction left generalizing position with
  | nil => rfl
  | cons segment rest ih =>
    cases segment with
    | plain piece => simp [elementSpans, ih, Segment.source, Nat.add_assoc]
    | element name inner => simp [elementSpans, ih, Segment.source, Nat.add_assoc]

namespace ElementForest

/-- The elements of a forest that starts at a position inside the elements `outer`, in the order of
their opening tags. -/
def elements (position : Nat) (outer : List (List Char)) : ElementForest → List PlacedElement
  | nil => []
  | char _ rest => rest.elements (position + 1) outer
  | void tag rest =>
    ⟨tag.name, true, outer, position, tag.source⟩ :: rest.elements (position + tag.source.length) outer
  | element first last body rest =>
    let source := first.source ++ body.source ++ last.source
    ⟨first.name, false, outer, position, source⟩ ::
      (body.elements (position + first.source.length) (first.name :: outer) ++
        rest.elements (position + source.length) outer)

variable {names : ElementNames} {outer : List (List Char)} {forest : ElementForest} {element : PlacedElement}
  {position : Nat}

/-- An element stands inside the elements around its forest. -/
theorem subset_outer_of_mem_elements (member : element ∈ forest.elements position outer) : outer ⊆ element.outer := by
  induction forest generalizing position outer with
  | nil => exact absurd member (by simp [elements])
  | char c rest ih => exact ih member
  | void tag rest ih =>
    rcases List.mem_cons.mp member with rfl | member
    · exact List.Subset.refl _
    · exact ih member
  | element first last body rest ihBody ihRest =>
    simp only [elements, List.mem_cons, List.mem_append] at member
    rcases member with rfl | member | member
    · exact List.Subset.refl _
    · exact List.Subset.trans (List.subset_cons_self _ _) (ihBody member)
    · exact ihRest member

/-- Nothing inside a known element is outermost. -/
theorem filter_elements_eq_nil (inside : outer.any names.isNormal = true) :
    (forest.elements position outer).filter (·.isOutermost names) = [] := by
  rw [List.filter_eq_nil_iff]
  intro element member outermost
  obtain ⟨name, listed, known⟩ := List.any_eq_true.mp inside
  have around := subset_outer_of_mem_elements member listed
  simp only [PlacedElement.isOutermost, Bool.and_eq_true, Bool.not_eq_true', List.any_eq_false] at outermost
  exact outermost.2 name around known

/-- Each element stands where its span says. -/
theorem source_of_mem_elements (member : element ∈ forest.elements position outer) :
    ∃ before after, forest.source = before ++ element.source ++ after ∧ element.start = position + before.length := by
  induction forest generalizing position outer with
  | nil => exact absurd member (by simp [elements])
  | char c rest ih =>
    obtain ⟨before, after, cut, start⟩ := ih member
    exact ⟨c :: before, after, by simp [cut], by simp only [List.length_cons]; omega⟩
  | void tag rest ih =>
    rcases List.mem_cons.mp member with rfl | member
    · exact ⟨[], rest.source, by simp, rfl⟩
    · obtain ⟨before, after, cut, start⟩ := ih member
      exact ⟨tag.source ++ before, after, by simp [cut], by simp only [List.length_append]; omega⟩
  | element first last body rest ihBody ihRest =>
    simp only [elements, List.mem_cons, List.mem_append] at member
    rcases member with rfl | member | member
    · exact ⟨[], rest.source, by simp, rfl⟩
    · obtain ⟨before, after, cut, start⟩ := ihBody member
      refine ⟨first.source ++ before, after ++ (last.source ++ rest.source), by simp [cut], ?_⟩
      simp only [List.length_append]
      omega
    · obtain ⟨before, after, cut, start⟩ := ihRest member
      refine ⟨first.source ++ body.source ++ last.source ++ before, after, by simp [cut], ?_⟩
      simp only [List.length_append] at start ⊢
      omega

/-- The elements among the segments of a forest are its outermost known elements. -/
theorem elementSpans_segments (position : Nat) (outside : outer.any names.isNormal = false) :
    elementSpans position (forest.segments names) =
      ((forest.elements position outer).filter (·.isOutermost names)).map PlacedElement.span := by
  induction forest generalizing position outer with
  | nil => rfl
  | char c rest ih => exact ih (position + 1) outside
  | void tag rest ih =>
    have later := ih (position + tag.source.length) outside
    by_cases listed : names.isVoid tag.name = true
    · rw [segments, if_pos listed, elements, List.filter_cons_of_pos, List.map_cons, ← later]
      · simp [elementSpans, PlacedElement.span, Piece.source]
      · simp [PlacedElement.isOutermost, PlacedElement.isKnown, listed, outside]
    · rw [segments, if_neg listed, elements, List.filter_cons_of_neg, ← later]
      · rfl
      · simp [PlacedElement.isOutermost, PlacedElement.isKnown, listed]
  | element first last body rest ihBody ihRest =>
    have later := ihRest (position + (first.source ++ body.source ++ last.source).length) outside
    by_cases listed : names.isNormal first.name = true
    · have none : (body.elements (position + first.source.length) (first.name :: outer)).filter
          (·.isOutermost names) = [] := filter_elements_eq_nil (by simp [listed])
      rw [segments, if_pos listed, elements, List.filter_cons_of_pos, List.filter_append, none, List.nil_append,
        List.map_cons, ← later]
      · simp [elementSpans, PlacedElement.span, sourceOf_elementPieces, source]
      · simp [PlacedElement.isOutermost, PlacedElement.isKnown, listed, outside]
    · have outside' : (first.name :: outer).any names.isNormal = false := by
        rw [List.any_cons, outside, Bool.or_false, Bool.eq_false_iff]
        exact listed
      have inside := ihBody (position + first.source.length) outside'
      rw [segments, if_neg listed, elements, List.filter_cons_of_neg, List.filter_append, List.map_append, ← later,
        ← inside]
      · simp only [elementSpans, elementSpans_append, source_segments, Piece.source, List.length_append,
          Nat.add_assoc]
      · simp [PlacedElement.isOutermost, PlacedElement.isKnown, listed]

end ElementForest

/-- In properly nested markup the scan for outermost elements finds, in order, the spans of the known elements
that stand in no known element, whatever stands in them. The names of tags may be written in any case, the
values of attributes stand between double quotes, and the tags of void elements may end in a slash. Normal
and void names may be any, as long as an element that is looked for as a void one is void. Each span reaches
from the `<` of an element to the `>` of its own last tag. -/
theorem outermostSpans_source (names : ElementNames) (voids : List (List Char)) (forest : ElementForest)
    (known : ∀ listed ∈ names.void, listed.toList ∈ voids) (nested : forest.IsNested voids)
    (proper : ∀ part ∈ forest.pieces, part.IsProper) :
    outermostSpans names forest.source =
        ((forest.elements 0 []).filter (·.isOutermost names)).map PlacedElement.span ∧
      ∀ element ∈ forest.elements 0 [], ∃ before after, forest.source = before ++ element.source ++ after ∧
        element.span = ⟨before.length, (before ++ element.source).length⟩ := by
  constructor
  · have cut := ElementForest.pieces_source fun part member => (proper part member).isWritten
    have found : segments names (forest.pieces ++ []) = forest.segments names ++ segments names [] :=
      ElementForest.segments_pieces known nested (by simp)
    have none : segments names [] = [] := by rw [segments]
    rw [List.append_nil, none, List.append_nil] at found
    rw [outermostSpans, cut, found]
    exact ElementForest.elementSpans_segments 0 rfl
  · intro element member
    obtain ⟨before, after, cut, start⟩ := ElementForest.source_of_mem_elements member
    exact ⟨before, after, cut, by simp [PlacedElement.span, start]⟩

/-- Lists in an unknown element whose title looks like tags, with a list and a break inside the first one. -/
theorem outermostSpans_source_lists :
    let names : ElementNames := ⟨["ul"], ["br", "hr"]⟩
    let voids := [['b', 'r'], ['h', 'r']]
    let title : AttributeSyntax := ⟨[' '], ['t'], some ⟨[' '], [], "</div><ul>'/".toList⟩⟩
    let opening (name : List Char) (entries : List AttributeSyntax) : Tag :=
      (⟨name, entries, [], false⟩ : StartSyntax).tag
    let closing (name : List Char) : Tag := (⟨name, [' ']⟩ : StopSyntax).tag
    let inner : ElementForest := .element (opening ['u', 'l'] []) (closing ['u', 'L']) (.char '>' .nil)
      (.void (opening ['b', 'r'] []) .nil)
    let forest : ElementForest := .element (opening ['D', 'i', 'v'] [title]) (closing ['d', 'i', 'v'])
      (.element (opening ['U', 'L'] []) (closing ['u', 'l']) inner .nil)
      (.void (⟨['h', 'r'], [], [], true⟩ : StartSyntax).tag .nil)
    (∀ listed ∈ names.void, listed.toList ∈ voids) ∧ forest.IsNested voids ∧
      (∀ part ∈ forest.pieces, part.IsProper) ∧
      forest.source = "<Div t =\"</div><ul>'/\"><UL><ul>></uL ><br></ul ></div ><hr/>".toList ∧
      outermostSpans names forest.source = [⟨23, 48⟩, ⟨55, 60⟩] := by
  intro names voids title opening closing inner forest
  have known : ∀ listed ∈ names.void, listed.toList ∈ voids := by decide
  have nested : forest.IsNested voids := by
    simp [forest, inner, opening, closing, voids, ElementForest.IsNested, StartSyntax.tag, StopSyntax.tag]
  have proper : ∀ part ∈ forest.pieces, part.IsProper := by
    simp only [forest, inner, ElementForest.pieces, List.cons_append, List.nil_append, List.forall_mem_cons]
    exact ⟨.start rfl, .start rfl, .start rfl, .char (by decide), .stop rfl, .start rfl, .stop rfl, .stop rfl,
      .start rfl, by simp⟩
  refine ⟨known, nested, proper, by decide, ?_⟩
  rw [(outermostSpans_source names voids forest known nested proper).1]
  decide

end PostMarkup
