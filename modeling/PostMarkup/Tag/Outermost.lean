import PostMarkup.Tag
import PostMarkup.Text.Span

/-! # Outermost elements

An element starts at a tag of a known name. A void element is that tag alone, and any other
reaches to its own closing tag, past the elements of the same name inside it. An opening tag
without a closing one starts no element. `segments` cuts a text into its outermost elements and
the pieces between them, and `source_segments` states that nothing is lost.
-/

namespace PostMarkup

/-- The names of the elements that are looked for. -/
structure ElementNames where
  /-- Elements that a closing tag ends. -/
  normal : List String
  /-- Elements that consist of one tag. -/
  void : List String

namespace ElementNames

/-- Whether a name is that of an element that a closing tag ends. -/
def isNormal (names : ElementNames) (name : List Char) : Bool :=
  names.normal.contains (String.ofList name)

/-- Whether a name is that of an element that consists of one tag. -/
def isVoid (names : ElementNames) (name : List Char) : Bool :=
  names.void.contains (String.ofList name)

end ElementNames

/-- The pieces up to and including the closing tag of an element, and the pieces after it, where
`depth` elements of the same name are open inside it. -/
def untilClosed? (name : List Char) (depth : Nat) : List Piece → Option (List Piece × List Piece)
  | [] => none
  | .char c :: rest =>
    (untilClosed? name depth rest).map fun (inner, after) => (.char c :: inner, after)
  | .tag tag :: rest =>
    if tag.name = name ∧ tag.closing then
      match depth with
      | 0 => some ([.tag tag], rest)
      | depth + 1 =>
        (untilClosed? name depth rest).map fun (inner, after) => (.tag tag :: inner, after)
    else
      let opened := if tag.name = name ∧ ¬tag.selfClosing then depth + 1 else depth
      (untilClosed? name opened rest).map fun (inner, after) => (.tag tag :: inner, after)

/-- The pieces of an element and those after it make up the pieces that were read. -/
theorem eq_of_untilClosed? {name : List Char} {depth : Nat} {pieces inner after : List Piece}
    (found : untilClosed? name depth pieces = some (inner, after)) : pieces = inner ++ after := by
  induction pieces generalizing depth inner after with
  | nil => simp [untilClosed?] at found
  | cons piece rest ih =>
    cases piece with
    | char c =>
      simp only [untilClosed?] at found
      obtain ⟨⟨within, beyond⟩, closed, same⟩ := Option.map_eq_some_iff.mp found
      simp only [Prod.mk.injEq] at same
      obtain ⟨rfl, rfl⟩ := same
      simp [ih closed]
    | tag tag =>
      simp only [untilClosed?] at found
      split at found
      · split at found
        · simp only [Option.some.injEq, Prod.mk.injEq] at found
          simp [← found.1, ← found.2]
        · obtain ⟨⟨within, beyond⟩, closed, same⟩ := Option.map_eq_some_iff.mp found
          simp only [Prod.mk.injEq] at same
          obtain ⟨rfl, rfl⟩ := same
          simp [ih closed]
      · obtain ⟨⟨within, beyond⟩, closed, same⟩ := Option.map_eq_some_iff.mp found
        simp only [Prod.mk.injEq] at same
        obtain ⟨rfl, rfl⟩ := same
        simp [ih closed]

/-- What a text consists of when only outermost elements count. -/
inductive Segment where
  | plain (piece : Piece)
  | element (name : List Char) (pieces : List Piece)

namespace Segment

def source : Segment → List Char
  | plain piece => piece.source
  | element _ pieces => sourceOf pieces

end Segment

/-- The outermost elements of some names and the pieces between them. -/
def segments (names : ElementNames) : List Piece → List Segment
  | [] => []
  | .char c :: rest => .plain (.char c) :: segments names rest
  | .tag tag :: rest =>
    if tag.closing then .plain (.tag tag) :: segments names rest
    else if names.isVoid tag.name then
      .element tag.name [.tag tag] :: segments names rest
    else if names.isNormal tag.name && !tag.selfClosing then
      match _closed : untilClosed? tag.name 0 rest with
      | some (inner, after) => .element tag.name (.tag tag :: inner) :: segments names after
      | none => .plain (.tag tag) :: segments names rest
    else .plain (.tag tag) :: segments names rest
termination_by pieces => pieces.length
decreasing_by
  all_goals try exact Nat.lt_add_one _
  simp only [eq_of_untilClosed? _closed, List.length_cons, List.length_append]
  omega

/-- Cutting pieces into segments loses nothing. -/
theorem source_segments (names : ElementNames) (pieces : List Piece) :
    (segments names pieces).flatMap Segment.source = sourceOf pieces := by
  fun_induction segments names pieces with
  | case1 => rfl
  | case2 c rest ih => simp_all [Segment.source, sourceOf]
  | case3 rest tag closing ih => simp_all [Segment.source, sourceOf]
  | case4 rest tag opens void ih => simp_all [Segment.source, sourceOf]
  | case5 rest tag opens notVoid paired inner after found ih =>
    rw [eq_of_untilClosed? found]
    simp_all [Segment.source, sourceOf]
  | case6 rest tag opens notVoid paired unclosed ih => simp_all [Segment.source, sourceOf]
  | case7 rest tag opens notVoid other ih => simp_all [Segment.source, sourceOf]

/-- The spans of the elements among segments that start at a position. -/
def elementSpans (position : Nat) : List Segment → List Span
  | [] => []
  | .plain piece :: rest => elementSpans (position + piece.source.length) rest
  | .element _ pieces :: rest =>
    let stop := position + (sourceOf pieces).length
    ⟨position, stop⟩ :: elementSpans stop rest

/-- The spans of the outermost elements of a text. -/
def outermostSpans (names : ElementNames) (text : List Char) : List Span :=
  elementSpans 0 (segments names (pieces text))

end PostMarkup
