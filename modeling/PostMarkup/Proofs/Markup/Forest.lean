import PostMarkup.Proofs.Markup.Fragment
import PostMarkup.Tag.Outermost

/-! # Markup as a forest of elements

A forest holds what follows one another in markup, and each element in it holds the forest between
its two tags. The scan for outermost elements reads pieces and counts the tags of one name only.
`segments_pieces` states that it finds the elements of the forest: a known element is cut out whole,
whatever stands in it, and an unknown one is passed over by its two tags.
-/

namespace PostMarkup

section Scan

variable {names : ElementNames} {name : List Char} {rest : List Piece}

theorem untilClosed?_last {tag : Tag} (last : tag.name = name ∧ tag.closing = true) :
    untilClosed? name 0 (.tag tag :: rest) = some ([.tag tag], rest) := by
  rw [untilClosed?, if_pos last]

theorem untilClosed?_leave {tag : Tag} (last : tag.name = name ∧ tag.closing = true) (depth : Nat) :
    untilClosed? name (depth + 1) (.tag tag :: rest) =
      (untilClosed? name depth rest).map fun (inner, after) => (.tag tag :: inner, after) := by
  rw [untilClosed?, if_pos last]

theorem untilClosed?_enter {tag : Tag} (first : tag.name = name) (opens : tag.closing = false)
    (noSlash : tag.selfClosing = false) (depth : Nat) :
    untilClosed? name depth (.tag tag :: rest) =
      (untilClosed? name (depth + 1) rest).map fun (inner, after) => (.tag tag :: inner, after) := by
  cases depth <;> simp [untilClosed?, first, opens, noSlash]

theorem untilClosed?_other {tag : Tag} (other : tag.name ≠ name) (depth : Nat) :
    untilClosed? name depth (.tag tag :: rest) =
      (untilClosed? name depth rest).map fun (inner, after) => (.tag tag :: inner, after) := by
  cases depth <;> simp [untilClosed?, other]

/-- A void element of a known name is cut out. -/
theorem segments_void {tag : Tag} (opens : tag.closing = false) (known : names.isVoid tag.name = true)
    (rest : List Piece) :
    segments names (.tag tag :: rest) = .element tag.name [.tag tag] :: segments names rest := by
  rw [segments, if_neg (by simp [opens]), if_pos known]

/-- Nothing is closed where no closing tag of the name stands. -/
theorem untilClosed?_eq_none {parts : List Piece}
    (unclosed : ∀ tag, .tag tag ∈ parts → tag.closing = true → tag.name ≠ name) (depth : Nat) :
    untilClosed? name depth parts = none := by
  induction parts generalizing depth with
  | nil => rfl
  | cons part others ih =>
    have later := ih fun tag member => unclosed tag (List.mem_cons_of_mem _ member)
    cases part with
    | char c => rw [untilClosed?, later, Option.map_none]
    | tag tag =>
      have other : ¬(tag.name = name ∧ tag.closing = true) :=
        fun both => unclosed tag List.mem_cons_self both.2 both.1
      cases depth <;> simp only [untilClosed?, if_neg other, later, Option.map_none]

end Scan

namespace ElementNames

variable {names : ElementNames} {voids : List (List Char)} {name : List Char}

/-- An element that is looked for as a void one is void, if all that are listed so are. -/
theorem mem_of_isVoid (known : ∀ listed ∈ names.void, listed.toList ∈ voids) (isVoid : names.isVoid name = true) :
    name ∈ voids := by
  have void := known _ (List.contains_iff_mem.mp isVoid)
  rwa [String.toList_ofList] at void

/-- An element that is looked for as a normal one is not void, if none that is listed so is. -/
theorem not_mem_of_isNormal (normal : ∀ listed ∈ names.normal, listed.toList ∉ voids)
    (isNormal : names.isNormal name = true) : name ∉ voids := by
  have notVoid := normal _ (List.contains_iff_mem.mp isNormal)
  rwa [String.toList_ofList] at notVoid

end ElementNames

/-- What follows one another in markup, with the content of each element. -/
inductive ElementForest where
  | nil
  | char (c : Char) (rest : ElementForest)
  | void (tag : Tag) (rest : ElementForest)
  | element (first last : Tag) (body rest : ElementForest)

namespace ElementForest

def pieces : ElementForest → List Piece
  | nil => []
  | char c rest => .char c :: rest.pieces
  | void tag rest => .tag tag :: rest.pieces
  | element first last body rest => .tag first :: (body.pieces ++ .tag last :: rest.pieces)

def source (forest : ElementForest) : List Char := sourceOf forest.pieces

/-- Whether the tags of a forest are properly nested, where the elements of the names `voids` are void:
these consist of one tag, and the others of an opening tag that does not end in a slash and a closing
tag of the same name. -/
def IsNested (voids : List (List Char)) : ElementForest → Prop
  | nil => True
  | char _ rest => rest.IsNested voids
  | void tag rest => tag.closing = false ∧ tag.name ∈ voids ∧ rest.IsNested voids
  | element first last body rest =>
    (first.closing = false ∧ first.selfClosing = false ∧ first.name ∉ voids) ∧
      (last.closing = true ∧ last.name = first.name) ∧ body.IsNested voids ∧ rest.IsNested voids

/-- The segments of a forest: known elements are whole, other elements are left in pieces. -/
def segments (names : ElementNames) : ElementForest → List Segment
  | nil => []
  | char c rest => .plain (.char c) :: rest.segments names
  | void tag rest =>
    (if names.isVoid tag.name then .element tag.name [.tag tag] else .plain (.tag tag)) :: rest.segments names
  | element first last body rest =>
    if names.isNormal first.name then
      .element first.name (elementPieces first body.pieces last) :: rest.segments names
    else .plain (.tag first) :: (body.segments names ++ .plain (.tag last) :: rest.segments names)

variable {names : ElementNames} {voids : List (List Char)} {forest : ElementForest} {name : List Char}
  {rest : List Piece}

@[simp] theorem source_nil : nil.source = [] := rfl

@[simp] theorem source_char (c : Char) (after : ElementForest) : (char c after).source = c :: after.source := rfl

@[simp] theorem source_void (tag : Tag) (after : ElementForest) :
    (void tag after).source = tag.source ++ after.source := rfl

@[simp] theorem source_element (first last : Tag) (body after : ElementForest) :
    (element first last body after).source = first.source ++ (body.source ++ (last.source ++ after.source)) := by
  simp [source, pieces, Piece.source]

/-- Segments hold the characters of the forest in order. -/
theorem source_segments (names : ElementNames) (forest : ElementForest) :
    (forest.segments names).flatMap Segment.source = forest.source := by
  induction forest with
  | nil => rfl
  | char c after ih => simp [segments, Segment.source, Piece.source, ih]
  | void tag after ih =>
    rw [segments, List.flatMap_cons, ih, source_void]
    split <;> simp [Segment.source, Piece.source]
  | element first last body after ihBody ihRest =>
    rw [segments]
    split
    · rw [List.flatMap_cons, ihRest, Segment.source, sourceOf_elementPieces, source_element]
      simp [source]
    · simp [Segment.source, Piece.source, ihBody, ihRest]

/-- Written pieces of a forest are cut out of its characters, whatever follows. -/
theorem pieces_source (written : ∀ part ∈ forest.pieces, part.IsWritten) :
    PostMarkup.pieces forest.source = forest.pieces := by
  simpa [source] using pieces_sourceOf_append written []

protected def append : ElementForest → ElementForest → ElementForest
  | nil, after => after
  | char c rest, after => char c (rest.append after)
  | void tag rest, after => void tag (rest.append after)
  | element first last body rest, after => element first last body (rest.append after)

instance : Append ElementForest := ⟨ElementForest.append⟩

variable {left right : ElementForest}

@[simp] theorem nil_append (after : ElementForest) : nil ++ after = after := rfl

@[simp] theorem char_append (c : Char) (rest after : ElementForest) :
    char c rest ++ after = char c (rest ++ after) := rfl

@[simp] theorem void_append (tag : Tag) (rest after : ElementForest) :
    void tag rest ++ after = void tag (rest ++ after) := rfl

@[simp] theorem element_append (first last : Tag) (body rest after : ElementForest) :
    element first last body rest ++ after = element first last body (rest ++ after) := rfl

@[simp] theorem pieces_append (left right : ElementForest) : (left ++ right).pieces = left.pieces ++ right.pieces := by
  induction left with
  | nil => rfl
  | char c rest ih => simp [pieces, ih]
  | void tag rest ih => simp [pieces, ih]
  | element first last body rest _ ih => simp [pieces, ih]

@[simp] theorem source_append (left right : ElementForest) : (left ++ right).source = left.source ++ right.source := by
  simp [source]

theorem append_assoc (left right after : ElementForest) : left ++ right ++ after = left ++ (right ++ after) := by
  induction left with
  | nil => rfl
  | char c rest ih => simp [ih]
  | void tag rest ih => simp [ih]
  | element first last body rest _ ih => simp [ih]

theorem isNested_append : (left ++ right).IsNested voids ↔ left.IsNested voids ∧ right.IsNested voids := by
  induction left with
  | nil => simp [IsNested]
  | char c rest ih => exact ih
  | void tag rest ih => simp only [void_append, IsNested, ih, and_assoc]
  | element first last body rest _ ih => simp only [element_append, IsNested, ih, and_assoc]

/-- The segments of forests one after the other. -/
theorem segments_append (names : ElementNames) (left right : ElementForest) :
    (left ++ right).segments names = left.segments names ++ right.segments names := by
  induction left with
  | nil => rfl
  | char c rest ih => simp [segments, ih]
  | void tag rest ih => simp [segments, ih]
  | element first last body rest _ ih =>
    rw [element_append, segments, segments]
    split
    · rw [ih, List.cons_append]
    · simp [ih]

/-- The elements that a closing tag ends are not void. -/
theorem not_mem_of_closing (nested : forest.IsNested voids) {tag : Tag} (member : .tag tag ∈ forest.pieces)
    (closing : tag.closing = true) : tag.name ∉ voids := by
  induction forest with
  | nil => exact absurd member (by simp [pieces])
  | char c after ih => exact ih nested (by simpa [pieces] using member)
  | void single after ih =>
    obtain ⟨opens, _, nested⟩ := nested
    rcases List.mem_cons.mp member with same | member
    · rw [Piece.tag.inj same, opens] at closing
      cases closing
    · exact ih nested member
  | element first last body after ihBody ihRest =>
    obtain ⟨⟨opens, _, normal⟩, ⟨_, same⟩, inside, further⟩ := nested
    simp only [pieces, List.mem_cons, List.mem_append, Piece.tag.injEq] at member
    rcases member with rfl | member | rfl | member
    · exact absurd closing (by simp [opens])
    · exact ihBody inside member
    · exact same ▸ normal
    · exact ihRest further member

/-- A forest is passed over in the search for a closing tag: what it opens it closes. -/
theorem untilClosed?_pieces (nested : forest.IsNested voids) (normal : name ∉ voids) (depth : Nat)
    (rest : List Piece) : untilClosed? name depth (forest.pieces ++ rest) =
      (untilClosed? name depth rest).map fun (inner, after) => (forest.pieces ++ inner, after) := by
  induction forest generalizing depth rest with
  | nil => simp [pieces]
  | char c after ih =>
    rw [pieces, List.cons_append, untilClosed?, ih nested]
    cases untilClosed? name depth rest <;> rfl
  | void tag after ih =>
    obtain ⟨_, void, nested⟩ := nested
    have differs : tag.name ≠ name := by
      rintro rfl
      exact normal void
    rw [pieces, List.cons_append, untilClosed?_other differs, ih nested]
    cases untilClosed? name depth rest <;> rfl
  | element first last body after ihBody ihRest =>
    obtain ⟨⟨opens, noSlash, _⟩, ⟨closes, same⟩, inside, further⟩ := nested
    have shape : (element first last body after).pieces ++ rest =
        .tag first :: (body.pieces ++ .tag last :: (after.pieces ++ rest)) := by simp [pieces]
    rw [shape, pieces]
    by_cases own : first.name = name
    · rw [untilClosed?_enter own opens noSlash, ihBody inside, untilClosed?_leave ⟨same.trans own, closes⟩,
        ihRest further]
      cases untilClosed? name depth rest <;> simp
    · have own' : last.name ≠ name := fun named => own (same.symm.trans named)
      rw [untilClosed?_other own, ihBody inside, untilClosed?_other own', ihRest further]
      cases untilClosed? name depth rest <;> simp

/-- The scan finds the segments of a forest, if its known void elements are void in the forest and what
follows closes no element that is void in it. -/
theorem segments_pieces (known : ∀ listed ∈ names.void, listed.toList ∈ voids) (nested : forest.IsNested voids)
    (unclosed : ∀ tag, .tag tag ∈ rest → tag.closing = true → tag.name ∈ voids → names.isNormal tag.name = false) :
    PostMarkup.segments names (forest.pieces ++ rest) =
      forest.segments names ++ PostMarkup.segments names rest := by
  induction forest generalizing rest with
  | nil => rfl
  | char c after ih =>
    rw [pieces, List.cons_append, PostMarkup.segments, ih nested unclosed, segments, List.cons_append]
  | void tag after ih =>
    obtain ⟨opens, void, nested⟩ := nested
    have later := ih nested unclosed
    rw [pieces, List.cons_append, segments, List.cons_append, ← later]
    by_cases listed : names.isVoid tag.name = true
    · rw [segments_void opens listed, if_pos listed]
    -- A void element whose name is looked for as that of a normal one is closed nowhere.
    · have open' : names.isNormal tag.name = true → untilClosed? tag.name 0 (after.pieces ++ rest) = none := by
        intro normal
        apply untilClosed?_eq_none
        rintro other member closing same
        rcases List.mem_append.mp member with member | member
        · exact not_mem_of_closing nested member closing (same ▸ void)
        · have quiet := unclosed other member closing (same ▸ void)
          exact Bool.false_ne_true (quiet.symm.trans (same ▸ normal))
      rw [if_neg listed, PostMarkup.segments, if_neg (by simp [opens]), if_neg listed]
      split
      · rename_i shape
        rw [Bool.and_eq_true] at shape
        split
        · rename_i inner beyond closed
          exact absurd closed (by simp [open' shape.1])
        · rfl
      · rfl
  | element first last body after ihBody ihRest =>
    obtain ⟨⟨opens, noSlash, normal⟩, ⟨closes, same⟩, inside, further⟩ := nested
    have notVoid : names.isVoid first.name = false := by
      rw [Bool.eq_false_iff]
      exact fun void => normal (names.mem_of_isVoid known void)
    have shape : (element first last body after).pieces ++ rest =
        .tag first :: (body.pieces ++ .tag last :: (after.pieces ++ rest)) := by simp [pieces]
    have found : untilClosed? first.name 0 (body.pieces ++ .tag last :: (after.pieces ++ rest)) =
        some (body.pieces ++ [.tag last], after.pieces ++ rest) := by
      rw [untilClosed?_pieces inside normal, untilClosed?_last ⟨same, closes⟩]
      rfl
    rw [shape, segments, PostMarkup.segments, if_neg (by simp [opens]), if_neg (by simp [notVoid])]
    by_cases listed : names.isNormal first.name = true
    · rw [if_pos (by simp [listed, noSlash]), if_pos listed]
      split
      · rename_i inner beyond closed
        rw [found] at closed
        cases closed
        rw [ihRest further unclosed, List.cons_append]
        rfl
      · rename_i none
        exact absurd none (by simp [found])
    · have unclosed' : ∀ tag, .tag tag ∈ (.tag last :: (after.pieces ++ rest) : List Piece) → tag.closing = true →
          tag.name ∈ voids → names.isNormal tag.name = false := by
        intro tag member closing void
        simp only [List.mem_cons, List.mem_append, Piece.tag.injEq] at member
        rcases member with rfl | member | member
        · exact absurd (same ▸ void) normal
        · exact absurd void (not_mem_of_closing further member closing)
        · exact unclosed tag member closing void
      rw [if_neg (by simp [listed]), if_neg listed, ihBody inside unclosed', PostMarkup.segments, if_pos closes,
        ihRest further unclosed]
      simp

end ElementForest

/-- Properly nested pieces are those of a forest. -/
theorem Nested.exists_forest {model : ContentModel} {outer : List (List Char)} {parts : List Piece}
    (nested : Nested model outer parts) :
    ∃ forest : ElementForest, forest.pieces = parts ∧ forest.IsNested voidNames := by
  induction nested with
  | nil => exact ⟨.nil, rfl, trivial⟩
  | @char _ c _ _ _ _ ih =>
    obtain ⟨after, rfl, further⟩ := ih
    exact ⟨.char c after, rfl, further⟩
  | @void _ tag _ _ void _ _ ih =>
    obtain ⟨after, rfl, further⟩ := ih
    exact ⟨.void tag after, rfl, void.1, void.2, further⟩
  | @element _ first last _ _ _ _ opens closes same _ _ _ _ ihBody ihRest =>
    obtain ⟨body, rfl, inside⟩ := ihBody
    obtain ⟨after, rfl, further⟩ := ihRest
    exact ⟨.element first last body after, rfl, opens, ⟨closes, same⟩, inside, further⟩

end PostMarkup
