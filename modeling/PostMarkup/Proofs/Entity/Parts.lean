import PostMarkup.Entity.Substitution
import PostMarkup.Proofs.Entity.Order

/-! # A text cut at its entities

Entities that stand apart cut a text into their slices and the characters between them. Replacing
them leaves none of them out: every entity is rendered once, from its own slice, and the other
characters stay where they are.
-/

namespace PostMarkup

/-- A part of a text: a character, or the slice of an entity. -/
inductive TextPart where
  | char (c : Char)
  | entity (kind : EntityKind) (slice : List Char)

namespace TextPart

def source : TextPart → List Char
  | char c => [c]
  | entity _ slice => slice

def IsFilled (part : TextPart) : Prop := 0 < part.source.length

end TextPart

/-- The entities of parts that start at a position. -/
def entitiesOf : Nat → List TextPart → List Entity
  | _, [] => []
  | position, .char _ :: rest => entitiesOf (position + 1) rest
  | position, .entity kind slice :: rest =>
    ⟨kind, position, position + slice.length⟩ :: entitiesOf (position + slice.length) rest

/-- The markup of parts that start at a position, each entity rendered from its slice. -/
def renderedParts (form : TextForm) (render : Entity → List Char → List Char) : Nat → List TextPart → List Char
  | _, [] => []
  | position, .char c :: rest => form.markup [c] ++ renderedParts form render (position + 1) rest
  | position, .entity kind slice :: rest =>
    render ⟨kind, position, position + slice.length⟩ slice ++
      renderedParts form render (position + slice.length) rest

@[simp] theorem TextForm.markup_nil (form : TextForm) : form.markup [] = [] := by
  cases form <;> rfl

theorem TextForm.markup_append (form : TextForm) (left right : List Char) :
    form.markup (left ++ right) = form.markup left ++ form.markup right := by
  cases form with
  | plain => exact escapeText_append left right
  | html => rfl

theorem entitiesOf_chars (position : Nat) (text : List Char) (rest : List TextPart) :
    entitiesOf position (text.map .char ++ rest) = entitiesOf (position + text.length) rest := by
  induction text generalizing position with
  | nil => rfl
  | cons c others ih => simp [entitiesOf, ih, Nat.add_assoc, Nat.add_comm 1]

theorem renderedParts_chars (form : TextForm) (render : Entity → List Char → List Char) (position : Nat)
    (text : List Char) (rest : List TextPart) : renderedParts form render position (text.map .char ++ rest) =
      form.markup text ++ renderedParts form render (position + text.length) rest := by
  induction text generalizing position with
  | nil => simp
  | cons c others ih =>
    have split : form.markup (c :: others) = form.markup [c] ++ form.markup others := form.markup_append [c] others
    simp [renderedParts, ih, split, Nat.add_assoc, Nat.add_comm 1]

theorem source_chars (text : List Char) : (text.map TextPart.char).flatMap TextPart.source = text := by
  induction text with
  | nil => rfl
  | cons c rest ih => simp [TextPart.source, ih]

namespace Entity

variable {form : TextForm} {render : Entity → List Char → List Char} {parts : List TextPart} {position : Nat}
  {entity : Entity} {entities : List Entity} {text : List Char}

/-- The entities of parts start from the position on and are not empty. -/
theorem bounds_of_mem_entitiesOf (filled : ∀ part ∈ parts, part.IsFilled)
    (member : entity ∈ entitiesOf position parts) :
    position ≤ entity.span.start ∧ entity.span.start < entity.span.stop := by
  induction parts generalizing position with
  | nil => exact absurd member (by simp [entitiesOf])
  | cons part rest ih =>
    obtain ⟨first, others⟩ := List.forall_mem_cons.mp filled
    cases part with
    | char c =>
      obtain ⟨start, order⟩ := ih others member
      exact ⟨by omega, order⟩
    | entity kind slice =>
      rcases List.mem_cons.mp member with rfl | member
      · exact ⟨Nat.le_refl _, Nat.lt_add_of_pos_right first⟩
      · obtain ⟨start, order⟩ := ih others member
        exact ⟨by omega, order⟩

/-- Each entity of parts ends before the later ones start. -/
theorem pairwise_entitiesOf (filled : ∀ part ∈ parts, part.IsFilled) (position : Nat) :
    (entitiesOf position parts).Pairwise fun left right => left.span.stop ≤ right.span.start := by
  induction parts generalizing position with
  | nil => exact .nil
  | cons part rest ih =>
    obtain ⟨_, others⟩ := List.forall_mem_cons.mp filled
    cases part with
    | char c => exact ih others _
    | entity kind slice =>
      refine .cons ?_ (ih others _)
      intro later member
      exact (bounds_of_mem_entitiesOf others member).1

/-- The entities of parts are in order. -/
theorem inOrder_entitiesOf (filled : ∀ part ∈ parts, part.IsFilled) (position : Nat) :
    inOrder (entitiesOf position parts) = entitiesOf position parts :=
  inOrder_of_pairwise (fun _ member => (bounds_of_mem_entitiesOf filled member).2)
    (pairwise_entitiesOf filled position)

/-- An entity after pending characters is replaced. -/
theorem substituteFrom_cons {kind : EntityKind} {run slice rest after : List Char} {others : List Entity}
    (positive : 0 < slice.length)
    (later : substituteFrom form render (position + run.length + slice.length) rest others = .ok after) :
    substituteFrom form render position (run ++ (slice ++ rest))
        (⟨kind, position + run.length, position + run.length + slice.length⟩ :: others) =
      .ok (form.markup run ++
        render ⟨kind, position + run.length, position + run.length + slice.length⟩ slice ++ after) := by
  have taken : ¬(position + run.length < position ∨
      position + (run ++ (slice ++ rest)).length < position + run.length + slice.length ∨
        Span.isEmpty ⟨position + run.length, position + run.length + slice.length⟩ = true) := by
    simp only [List.length_append, Span.isEmpty, decide_eq_true_eq]
    omega
  have upright : ¬position + run.length + slice.length < position + run.length := by omega
  have before : position + run.length - position = run.length := by omega
  have width : position + run.length + slice.length - (position + run.length) = slice.length := by omega
  have through : position + run.length + slice.length - position = (run ++ slice).length := by
    rw [List.length_append]
    omega
  simp only [substituteFrom]
  rw [if_neg taken, if_neg upright, before, width, through, List.take_left, List.drop_left,
    List.take_left, ← List.append_assoc run, List.drop_left, later]
  rfl

/-- Pending characters are written before the parts after them. -/
theorem substituteFrom_entitiesOf (filled : ∀ part ∈ parts, part.IsFilled) (position : Nat) (run : List Char) :
    substituteFrom form render position (run ++ parts.flatMap TextPart.source)
        (entitiesOf (position + run.length) parts) =
      .ok (form.markup run ++ renderedParts form render (position + run.length) parts) := by
  induction parts generalizing position run with
  | nil => simp [entitiesOf, substituteFrom, renderedParts]
  | cons part rest ih =>
    obtain ⟨first, others⟩ := List.forall_mem_cons.mp filled
    cases part with
    | char c =>
      have later := ih others position (run ++ [c])
      rw [form.markup_append] at later
      simpa [entitiesOf, TextPart.source, renderedParts, Nat.add_assoc] using later
    | entity kind slice =>
      have later := ih others (position + run.length + slice.length) []
      rw [List.nil_append, form.markup_nil, List.nil_append, List.length_nil, Nat.add_zero] at later
      rw [entitiesOf, List.flatMap_cons, renderedParts, ← List.append_assoc (form.markup run)]
      exact substituteFrom_cons first later

/-- A text cut at its entities has each of them replaced, in whatever order they are given. -/
theorem substitute_of_parts (filled : ∀ part ∈ parts, part.IsFilled)
    (ordered : inOrder entities = entitiesOf 0 parts) :
    substitute form render entities (parts.flatMap TextPart.source) = .ok (renderedParts form render 0 parts) := by
  have replaced : substituteFrom form render 0 ([] ++ parts.flatMap TextPart.source) (entitiesOf 0 parts) =
      .ok (form.markup [] ++ renderedParts form render 0 parts) := substituteFrom_entitiesOf filled 0 []
  rw [substitute, ordered]
  simpa using replaced

theorem overlaps_of_stop_le {left right : Span} (apart : left.stop ≤ right.start) : left.overlaps right = false := by
  simp only [Span.overlaps, Bool.and_eq_false_iff, decide_eq_false_iff_not]
  exact .inr (Nat.not_lt.mpr apart)

def startsBy (left right : Entity) : Bool := left.span.start ≤ right.span.start

theorem startsBy_trans (a b c : Entity) (first : startsBy a b = true) (second : startsBy b c = true) :
    startsBy a c = true :=
  decide_eq_true (Nat.le_trans (of_decide_eq_true first) (of_decide_eq_true second))

theorem startsBy_total (left right : Entity) : (startsBy left right || startsBy right left) = true := by
  simpa [startsBy] using Nat.le_total left.span.start right.span.start

/-- Each entity in order starts no later than the ones after it. -/
theorem pairwise_start_inOrder (entities : List Entity) :
    (inOrder entities).Pairwise fun left right => left.span.start ≤ right.span.start :=
  (List.pairwise_mergeSort startsBy_trans startsBy_total entities).imp of_decide_eq_true

/-- In order, entities that stand apart each end before the later ones start. -/
theorem pairwise_inOrder (bounds : ∀ entity ∈ entities, entity.span.start < entity.span.stop)
    (apart : entities.Pairwise fun left right => left.span.overlaps right.span = false) :
    (inOrder entities).Pairwise fun left right => left.span.stop ≤ right.span.start := by
  have same : (inOrder entities).Perm entities := List.mergeSort_perm _ _
  have sorted := pairwise_start_inOrder entities
  have apart' : (inOrder entities).Pairwise fun left right => left.span.overlaps right.span = false := by
    refine (same.pairwise_iff ?_).mpr apart
    intro left right disjoint
    rwa [Span.overlaps, Bool.and_comm]
  refine (sorted.and apart').imp_of_mem ?_
  rintro left right _ member ⟨start, disjoint⟩
  have order := bounds right (same.subset member)
  simp only [Span.overlaps, Bool.and_eq_false_iff, decide_eq_false_iff_not] at disjoint
  omega

/-- A text is cut at entities that each end before the later ones start. -/
theorem exists_parts_of_pairwise
    (bounds : ∀ entity ∈ entities, position ≤ entity.span.start ∧ entity.span.start < entity.span.stop ∧
      entity.span.stop ≤ position + text.length)
    (apart : entities.Pairwise fun left right => left.span.stop ≤ right.span.start) :
    ∃ parts : List TextPart, text = parts.flatMap TextPart.source ∧ (∀ part ∈ parts, part.IsFilled) ∧
      entitiesOf position parts = entities := by
  have single : ∀ (text : List Char), ∀ part ∈ text.map TextPart.char, part.IsFilled := by
    intro text part member
    obtain ⟨c, _, rfl⟩ := List.mem_map.mp member
    exact Nat.one_pos
  induction entities generalizing position text with
  | nil =>
    refine ⟨text.map .char, (source_chars text).symm, single text, ?_⟩
    have none := entitiesOf_chars position text []
    rwa [List.append_nil] at none
  | cons first rest ih =>
    obtain ⟨⟨start, order, stop⟩, others⟩ := List.forall_mem_cons.mp bounds
    obtain ⟨before, apart'⟩ := List.pairwise_cons.mp apart
    obtain ⟨kind, ⟨left, right⟩⟩ := first
    simp only at start order stop before
    have bounds' : ∀ entity ∈ rest, right ≤ entity.span.start ∧ entity.span.start < entity.span.stop ∧
        entity.span.stop ≤ right + (text.drop (right - position)).length := by
      intro entity member
      obtain ⟨_, order', stop'⟩ := others entity member
      refine ⟨before entity member, order', ?_⟩
      rw [List.length_drop]
      omega
    obtain ⟨parts, cut, filled, listed⟩ := ih bounds' apart'
    let run := text.take (left - position)
    let slice := (text.drop (left - position)).take (right - left)
    have ran : run.length = left - position := by
      rw [List.length_take]
      omega
    have sliced : slice.length = right - left := by
      rw [List.length_take, List.length_drop]
      omega
    have after : (text.drop (left - position)).drop (right - left) = text.drop (right - position) := by
      rw [List.drop_drop]
      congr 1
      omega
    have whole : text = run ++ (slice ++ parts.flatMap TextPart.source) := by
      rw [← cut, ← after, List.take_append_drop, List.take_append_drop]
    refine ⟨run.map .char ++ .entity kind slice :: parts, ?_, ?_, ?_⟩
    · rw [List.flatMap_append, source_chars, List.flatMap_cons]
      exact whole
    · refine List.forall_mem_append.mpr ⟨single run, List.forall_mem_cons.mpr ⟨?_, filled⟩⟩
      change 0 < slice.length
      omega
    · have starts : position + run.length = left := by omega
      have stops : left + slice.length = right := by omega
      rw [entitiesOf_chars, entitiesOf, starts, stops, listed]

/-- A text is cut at entities that stand apart. -/
theorem exists_parts_of_apart
    (bounds : ∀ entity ∈ entities, entity.span.start < entity.span.stop ∧ entity.span.stop ≤ text.length)
    (apart : entities.Pairwise fun left right => left.span.overlaps right.span = false) :
    ∃ parts : List TextPart, text = parts.flatMap TextPart.source ∧ (∀ part ∈ parts, part.IsFilled) ∧
      inOrder entities = entitiesOf 0 parts := by
  have inside : ∀ entity ∈ inOrder entities, 0 ≤ entity.span.start ∧ entity.span.start < entity.span.stop ∧
      entity.span.stop ≤ 0 + text.length := by
    intro entity member
    obtain ⟨order, stop⟩ := bounds entity ((List.mergeSort_perm _ _).subset member)
    exact ⟨Nat.zero_le _, order, by omega⟩
  obtain ⟨parts, cut, filled, listed⟩ := exists_parts_of_pairwise inside
    (pairwise_inOrder (fun entity member => (bounds entity member).1) apart)
  exact ⟨parts, cut, filled, listed.symm⟩

end Entity

end PostMarkup
