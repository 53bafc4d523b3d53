import PostMarkup.Proofs.Entity.Parts

/-! # Entities taken from a text

Entities may come in any order, overlap and reach past the text. Replacing them takes some of them, in
the order of their starts: each that lies in the text and starts no earlier than the last one taken
stops. So the text is cut into the slices of the entities taken and the characters between them, and
every character is written once. Among entities that lie in the text, those taken are the ones that
remain when overlaps are removed.
-/

namespace PostMarkup.Entity

variable {form : TextForm} {render : Entity → List Char → List Char} {entities : List Entity} {entity : Entity}
  {limit position : Nat} {text : List Char}

/-- The entities taken from a text of `limit` characters, where those before `position` are used up. -/
def taken (limit position : Nat) : List Entity → List Entity
  | [] => []
  | entity :: rest =>
    if entity.span.start < position ∨ limit < entity.span.stop then taken limit position rest
    else entity :: taken limit entity.span.stop rest

theorem taken_sublist (limit position : Nat) (entities : List Entity) :
    (taken limit position entities).Sublist entities := by
  induction entities generalizing position with
  | nil => exact .slnil
  | cons entity rest ih =>
    rw [taken]
    split
    · exact (ih position).cons entity
    · exact (ih entity.span.stop).cons_cons entity

/-- What is taken lies in the rest of the text. -/
theorem bounds_of_mem_taken (proper : ∀ entity ∈ entities, entity.span.start < entity.span.stop)
    (member : entity ∈ taken limit position entities) :
    position ≤ entity.span.start ∧ entity.span.start < entity.span.stop ∧ entity.span.stop ≤ limit := by
  induction entities generalizing position with
  | nil => cases member
  | cons first rest ih =>
    obtain ⟨order, others⟩ := List.forall_mem_cons.mp proper
    rw [taken] at member
    split at member
    · exact ih others member
    · rcases List.mem_cons.mp member with rfl | member
      · omega
      · obtain ⟨start, order', stop⟩ := ih others member
        omega

/-- Each entity that is taken ends before the later ones start. -/
theorem pairwise_taken (proper : ∀ entity ∈ entities, entity.span.start < entity.span.stop) (limit position : Nat) :
    (taken limit position entities).Pairwise fun left right => left.span.stop ≤ right.span.start := by
  induction entities generalizing position with
  | nil => exact .nil
  | cons first rest ih =>
    obtain ⟨_, others⟩ := List.forall_mem_cons.mp proper
    rw [taken]
    split
    · exact ih others position
    · refine .cons ?_ (ih others first.span.stop)
      intro later member
      exact (bounds_of_mem_taken others member).1

/-- Entities in the text each of which ends before the later ones start are all taken. -/
theorem taken_of_pairwise (bounds : ∀ entity ∈ entities, position ≤ entity.span.start ∧ entity.span.stop ≤ limit)
    (apart : entities.Pairwise fun left right => left.span.stop ≤ right.span.start) :
    taken limit position entities = entities := by
  induction entities generalizing position with
  | nil => rfl
  | cons first rest ih =>
    obtain ⟨⟨start, stop⟩, others⟩ := List.forall_mem_cons.mp bounds
    obtain ⟨before, apart'⟩ := List.pairwise_cons.mp apart
    have free : ¬(first.span.start < position ∨ limit < first.span.stop) := by omega
    rw [taken, if_neg free, ih (fun entity member => ⟨before entity member, (others entity member).2⟩) apart']

/-- It makes no difference to leave out the entities that are not taken. -/
theorem substituteFrom_taken (proper : ∀ entity ∈ entities, entity.span.start < entity.span.stop)
    (ends : position + text.length = limit) :
    substituteFrom form render position text (taken limit position entities) =
      substituteFrom form render position text entities := by
  induction entities generalizing position text with
  | nil => rfl
  | cons first rest ih =>
    obtain ⟨order, others⟩ := List.forall_mem_cons.mp proper
    have filled : first.span.isEmpty = false := decide_eq_false (Nat.ne_of_lt order)
    by_cases passed : first.span.start < position ∨ limit < first.span.stop
    · rw [taken, if_pos passed, ih others ends, substituteFrom, ends, if_pos (passed.imp_right .inl)]
    · have free : ¬(first.span.start < position ∨ position + text.length < first.span.stop ∨
          first.span.isEmpty = true) := by
        simp only [ends, filled, Bool.false_eq_true, or_false]
        exact passed
      have later : first.span.stop + (text.drop (first.span.stop - position)).length = limit := by
        rw [List.length_drop]
        omega
      rw [taken, if_neg passed, substituteFrom, substituteFrom, if_neg free, if_neg free, ih others later]

/-- Among entities in order that lie in the text, those that overlap none kept before are taken. -/
theorem taken_eq_selectFrom (last : Option Entity)
    (bounds : ∀ entity ∈ entities, entity.span.start < entity.span.stop ∧ entity.span.stop ≤ limit)
    (sorted : (last.toList ++ entities).Pairwise fun left right => left.span.start ≤ right.span.start) :
    taken limit (last.elim 0 (·.span.stop)) entities = selectFrom last entities := by
  induction entities generalizing last with
  | nil => rfl
  | cons first rest ih =>
    obtain ⟨⟨order, stop⟩, others⟩ := List.forall_mem_cons.mp bounds
    obtain ⟨_, further, before⟩ := List.pairwise_append.mp sorted
    have skips : (first.span.start < last.elim 0 (·.span.stop) ∨ limit < first.span.stop) ↔
        (last.any fun kept => kept.span.overlaps first.span) = true := by
      cases last with
      | none => simp; omega
      | some kept =>
        have start := before kept (by simp) first List.mem_cons_self
        simp [Span.overlaps]
        omega
    rw [taken, selectFrom]
    by_cases passed : first.span.start < last.elim 0 (·.span.stop) ∨ limit < first.span.stop
    · rw [if_pos passed, if_pos (skips.mp passed)]
      exact ih last others (sorted.sublist ((List.sublist_cons_self first rest).append_left last.toList))
    · rw [if_neg passed, if_neg (mt skips.mpr passed)]
      exact congrArg _ (ih (some first) others further)

/-- Rendered as they are, the parts of markup make up the markup. -/
theorem renderedParts_identity (position : Nat) (parts : List TextPart) :
    renderedParts .html (fun _ slice => slice) position parts = parts.flatMap TextPart.source := by
  induction parts generalizing position with
  | nil => rfl
  | cons part rest ih => cases part <;> simp [renderedParts, TextPart.source, TextForm.markup, ih]

/-- A text is cut at the entities taken from it. -/
theorem exists_parts_taken (proper : ∀ entity ∈ entities, entity.span.start < entity.span.stop) (text : List Char) :
    ∃ parts : List TextPart, text = parts.flatMap TextPart.source ∧ (∀ part ∈ parts, part.IsFilled) ∧
      entitiesOf 0 parts = taken text.length 0 entities := by
  refine exists_parts_of_pairwise (fun entity member => ?_) (pairwise_taken proper text.length 0)
  rw [Nat.zero_add]
  exact bounds_of_mem_taken proper member

/-- Where overlaps are removed first, the same entities are taken. -/
theorem taken_inOrder_selectDisjoint
    (bounds : ∀ entity ∈ entities, entity.span.start < entity.span.stop ∧ entity.span.stop ≤ limit) :
    taken limit 0 (inOrder (selectDisjoint entities)) = taken limit 0 (inOrder entities) := by
  have bounds' : ∀ entity ∈ inOrder entities, entity.span.start < entity.span.stop ∧ entity.span.stop ≤ limit :=
    fun entity member => bounds entity ((List.mergeSort_perm _ _).subset member)
  have selected : taken limit 0 (inOrder entities) = selectDisjoint entities :=
    taken_eq_selectFrom none bounds' (pairwise_start_inOrder entities)
  have proper : ∀ entity ∈ inOrder entities, entity.span.start < entity.span.stop :=
    fun entity member => (bounds' entity member).1
  have apart := pairwise_taken proper limit 0
  have inside : ∀ entity ∈ taken limit 0 (inOrder entities), 0 ≤ entity.span.start ∧ entity.span.stop ≤ limit :=
    fun entity member => ⟨Nat.zero_le _, (bounds_of_mem_taken proper member).2.2⟩
  rw [← selected, inOrder_of_pairwise (fun entity member => (bounds_of_mem_taken proper member).2.1) apart]
  exact taken_of_pairwise inside apart

/-- Whatever the entities are, as long as each starts before it stops, replacing them cuts the text into
parts: the slices of entities taken in order, none of which overlaps another, and the characters between
them. Each entity taken is rendered from its own slice, and the other characters are written as the form of
the text says, so that markup whose entities are rendered as they are stays as it is. If the entities lie in
the text, it makes no difference to remove overlaps first, and all of them are taken if none overlaps. -/
theorem substitute_partition (entities : List Entity) (text : List Char)
    (proper : ∀ entity ∈ entities, entity.span.start < entity.span.stop) :
    (∃ parts : List TextPart, text = parts.flatMap TextPart.source ∧
        (entitiesOf 0 parts).Sublist (inOrder entities) ∧
        ((entitiesOf 0 parts).Pairwise fun left right => left.span.overlaps right.span = false) ∧
        (∀ form render, substitute form render entities text = .ok (renderedParts form render 0 parts)) ∧
        ((∀ entity ∈ entities, entity.span.stop ≤ text.length) →
          (entities.Pairwise fun left right => left.span.overlaps right.span = false) →
            (entitiesOf 0 parts).Perm entities)) ∧
      substitute .html (fun _ slice => slice) entities text = .ok text ∧
      ((∀ entity ∈ entities, entity.span.stop ≤ text.length) → ∀ form render,
        substitute form render (selectDisjoint entities) text = substitute form render entities text) := by
  have proper' : ∀ entity ∈ inOrder entities, entity.span.start < entity.span.stop :=
    fun entity member => proper entity ((List.mergeSort_perm _ _).subset member)
  have replaced (form : TextForm) (render : Entity → List Char → List Char) {entities : List Entity}
      (proper : ∀ entity ∈ inOrder entities, entity.span.start < entity.span.stop) :
      substitute form render entities text =
        substituteFrom form render 0 text (taken text.length 0 (inOrder entities)) :=
    (substituteFrom_taken proper (Nat.zero_add _)).symm
  obtain ⟨parts, cut, filled, listed⟩ := exists_parts_taken proper' text
  have rendered (form : TextForm) (render : Entity → List Char → List Char) :
      substitute form render entities text = .ok (renderedParts form render 0 parts) := by
    have run : substituteFrom form render 0 ([] ++ _) _ = _ := substituteFrom_entitiesOf filled 0 []
    rw [List.nil_append, List.length_nil, form.markup_nil, List.nil_append, ← cut, listed] at run
    rw [replaced form render proper', run]
  have apart : (entitiesOf 0 parts).Pairwise fun left right => left.span.overlaps right.span = false :=
    (pairwise_entitiesOf filled 0).imp overlaps_of_stop_le
  refine ⟨⟨parts, cut, listed ▸ taken_sublist _ _ _, apart, rendered, ?_⟩, ?_, ?_⟩
  · intro inside apart'
    have ordered := pairwise_inOrder proper apart'
    have inside' : ∀ entity ∈ inOrder entities, 0 ≤ entity.span.start ∧ entity.span.stop ≤ text.length :=
      fun entity member => ⟨Nat.zero_le _, inside entity ((List.mergeSort_perm _ _).subset member)⟩
    rw [listed, taken_of_pairwise inside' ordered]
    exact List.mergeSort_perm _ _
  · rw [rendered, renderedParts_identity, ← cut]
  · intro inside form render
    have bounds : ∀ entity ∈ entities, entity.span.start < entity.span.stop ∧ entity.span.stop ≤ text.length :=
      fun entity member => ⟨proper entity member, inside entity member⟩
    have selected : ∀ entity ∈ inOrder (selectDisjoint entities), entity.span.start < entity.span.stop := by
      intro entity member
      have kept := mem_of_mem_selectFrom none ((List.mergeSort_perm _ _).subset member)
      exact proper' entity kept
    rw [replaced form render selected, replaced form render proper', taken_inOrder_selectDisjoint bounds]

/-- Two hashtags with the later one first in the list. -/
theorem substitute_partition_reversed :
    let text := "#a & #b".toList
    let entities : List Entity := [⟨.hashtag ['b'], 5, 7⟩, ⟨.hashtag ['a'], 0, 2⟩]
    (∀ entity ∈ entities, entity.span.start < entity.span.stop) ∧
      (∀ entity ∈ entities, entity.span.stop ≤ text.length) ∧
      (entities.Pairwise fun left right => left.span.overlaps right.span = false) ∧
      (∃ parts : List TextPart, text = parts.flatMap TextPart.source ∧ (entitiesOf 0 parts).Perm entities ∧
        ∀ form render, substitute form render entities text = .ok (renderedParts form render 0 parts)) ∧
      ∀ form render, substitute form render (selectDisjoint entities) text = substitute form render entities text := by
  intro text entities
  have proper : ∀ entity ∈ entities, entity.span.start < entity.span.stop := by decide
  have inside : ∀ entity ∈ entities, entity.span.stop ≤ text.length := by decide
  have apart : entities.Pairwise fun left right => left.span.overlaps right.span = false := by decide
  obtain ⟨⟨parts, cut, _, _, rendered, all⟩, _, selected⟩ := substitute_partition entities text proper
  exact ⟨proper, inside, apart, ⟨parts, cut, all inside apart, rendered⟩, selected inside⟩

end PostMarkup.Entity
