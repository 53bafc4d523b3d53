import PostMarkup.Proofs.Entity.Slice

/-! # The order of entities

A scan steps over what it finds. So its entities come in the order of the text and none overlaps
another, and extraction keeps all of them.
-/

namespace PostMarkup.Entity

variable {form : TextForm} {bare : Bool} {position : Nat} {before text : List Char} {entity : Entity}

/-- The entities of the rest of a text start in the rest and are not empty. -/
theorem bounds_of_mem_scan (found : entity ∈ scan form bare position before text) :
    position ≤ entity.span.start ∧ entity.span.start < entity.span.stop := by
  fun_induction scan form bare position before text with
  | case1 => exact absurd found (by simp)
  | case2 position before c rest less taken ih =>
    obtain ⟨start, order⟩ := ih found
    exact ⟨by omega, order⟩
  | case3 position before c rest other kind length read ih =>
    rcases List.mem_cons.mp found with rfl | later
    · exact ⟨Nat.le_refl _, Nat.lt_add_of_pos_right (EntityKind.length_pos read)⟩
    · obtain ⟨start, order⟩ := ih later
      exact ⟨by omega, order⟩
  | case4 position before c rest other nothing ih =>
    obtain ⟨start, order⟩ := ih found
    exact ⟨by omega, order⟩

/-- Each entity that a scan finds ends before the later ones start. -/
theorem pairwise_scan (form : TextForm) (bare : Bool) (position : Nat) (before text : List Char) :
    (scan form bare position before text).Pairwise fun left right => left.span.stop ≤ right.span.start := by
  fun_induction scan form bare position before text with
  | case1 => exact .nil
  | case2 position before c rest less taken ih => exact ih
  | case3 position before c rest other kind length read ih =>
    refine .cons ?_ ih
    intro later member
    exact (bounds_of_mem_scan member).1
  | case4 position before c rest other nothing ih => exact ih

/-- Entities that each end before the later ones start are in order. -/
theorem inOrder_of_pairwise {entities : List Entity}
    (bounds : ∀ entity ∈ entities, entity.span.start < entity.span.stop)
    (apart : entities.Pairwise fun left right => left.span.stop ≤ right.span.start) :
    inOrder entities = entities := by
  apply List.mergeSort_of_pairwise
  refine apart.imp_of_mem ?_
  intro left right member _ apart
  have order := bounds left member
  exact decide_eq_true (by omega)

/-- Entities none of which overlaps a later one are all selected. -/
theorem selectFrom_of_pairwise {entities : List Entity} (last : Option Entity)
    (apart : (last.toList ++ entities).Pairwise fun left right => left.span.stop ≤ right.span.start) :
    selectFrom last entities = entities := by
  induction entities generalizing last with
  | nil => rfl
  | cons first rest ih =>
    obtain ⟨_, further, before⟩ := List.pairwise_append.mp apart
    have free : (last.any fun kept => kept.span.overlaps first.span) = false := by
      cases last with
      | none => rfl
      | some kept =>
        have order := before kept (by simp) first List.mem_cons_self
        simp [Span.overlaps, order]
    rw [selectFrom, if_neg (by simp [free]), ih (some first) further]

/-- All entities that a scan finds are extracted. -/
theorem extract_eq_scan (form : TextForm) (bare : Bool) (text : List Char) :
    extract form bare text = scan form bare 0 [] text := by
  have apart := pairwise_scan form bare 0 [] text
  have sorted := inOrder_of_pairwise (fun entity member => (bounds_of_mem_scan member).2) apart
  rw [extract, selectDisjoint, sorted]
  exact selectFrom_of_pairwise none apart

end PostMarkup.Entity
