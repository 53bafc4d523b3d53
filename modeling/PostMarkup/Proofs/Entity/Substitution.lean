import PostMarkup.Entity.Substitution
import PostMarkup.Proofs.Markup.Boundary

/-! # Replacing entities in nested markup

If every entity reaches from boundary to boundary and is replaced by a fragment, the result is a
fragment, whichever of the entities are passed over.
-/

namespace PostMarkup.Entity

variable {model model' : ContentModel} {outer : List (List Char)} {markup : List Char}
  {render : Entity → List Char → List Char} {entities : List Entity}

/-- Whether an entity reaches from boundary to boundary and is replaced by a fragment. -/
structure Replaceable (model model' : ContentModel) (outer : List (List Char)) (markup : List Char)
    (render : Entity → List Char → List Char) (entity : Entity) : Prop where
  order : entity.span.start ≤ entity.span.stop
  start : IsBoundary model outer markup entity.span.start
  stop : IsBoundary model outer markup entity.span.stop
  fragment : Fragment model' outer
    (render entity ((markup.drop entity.span.start).take (entity.span.stop - entity.span.start)))

/-- The rest of some markup after a boundary, with its entities replaced. -/
theorem fragment_substituteFrom (whole : Fragment model outer markup)
    (permits : ∀ text, Fragment model outer text → Fragment model' outer text) {position : Nat}
    (boundary : IsBoundary model outer markup position)
    (each : ∀ entity ∈ entities, Replaceable model model' outer markup render entity) :
    ∃ html, substituteFrom .html render position (markup.drop position) entities = .ok html ∧
      Fragment model' outer html := by
  induction entities generalizing position with
  | nil => exact ⟨_, rfl, permits _ (boundary.drop whole)⟩
  | cons entity rest ih =>
    obtain ⟨given, others⟩ := List.forall_mem_cons.mp each
    unfold substituteFrom
    simp only
    split
    · exact ih boundary others
    · rename_i taken
      rw [if_neg (Nat.not_lt.mpr given.order)]
      have order : position ≤ entity.span.start := by omega
      obtain ⟨after, replaced, nested⟩ := ih given.stop others
      have run := permits _ (boundary.between given.start order)
      have slice := given.fragment
      rw [List.drop_drop, List.drop_drop, Nat.add_sub_cancel' order,
        Nat.add_sub_cancel' (Nat.le_trans order given.order), replaced]
      exact ⟨_, rfl, (run.append slice).append nested⟩

/-- Markup with its entities replaced. -/
theorem fragment_substitute (whole : Fragment model outer markup)
    (permits : ∀ text, Fragment model outer text → Fragment model' outer text)
    (each : ∀ entity ∈ entities, Replaceable model model' outer markup render entity) :
    ∃ html, substitute .html render entities markup = .ok html ∧ Fragment model' outer html := by
  have start : IsBoundary model outer markup 0 := .zero
  apply fragment_substituteFrom whole permits start
  intro entity member
  exact each entity (List.mem_mergeSort.mp member)

end PostMarkup.Entity
