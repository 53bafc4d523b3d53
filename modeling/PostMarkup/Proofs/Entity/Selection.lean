import PostMarkup.Proofs.Entity.Parts

/-! # Removing overlaps

Overlaps are removed in the order of the starts, where entities with one start keep the order in which
they were given. Each entity is compared with the last one kept only. Since the starts grow, an entity
that does not overlap the last one kept overlaps none of those kept before, so what is kept stands
apart. An entity that is dropped overlaps one that was kept before it: nothing could be added to what
is kept.
-/

namespace PostMarkup.Entity

variable {last : Option Entity} {entity : Entity} {entities : List Entity}

/-- Whether a list holds the given entities in the order of their starts, where entities with one start
keep their order. -/
structure IsStartOrder (entities ordered : List Entity) : Prop where
  sorted : ordered.Pairwise fun left right => left.span.start ≤ right.span.start
  stable : ∀ start, ordered.filter (·.span.start = start) = entities.filter (·.span.start = start)

theorem isStartOrder_inOrder (entities : List Entity) : IsStartOrder entities (inOrder entities) := by
  refine ⟨pairwise_start_inOrder entities, fun start => ?_⟩
  have equal : (entities.filter (·.span.start = start)).Pairwise fun left right => startsBy left right = true := by
    refine List.pairwise_of_forall_mem_list fun left member right member' => ?_
    have first := of_decide_eq_true (List.mem_filter.mp member).2
    have second := of_decide_eq_true (List.mem_filter.mp member').2
    exact decide_eq_true (Nat.le_of_eq (first.trans second.symm))
  -- Entities with one start are ordered already, and such entities are not rearranged.
  have kept : (entities.filter (·.span.start = start)).Sublist (inOrder entities) :=
    List.sublist_mergeSort startsBy_trans startsBy_total equal List.filter_sublist
  have inside := kept.filter (·.span.start = start)
  simp only [List.filter_filter, Bool.and_self] at inside
  have same : (inOrder entities).Perm entities := List.mergeSort_perm _ _
  exact (inside.eq_of_length (same.filter _).length_eq.symm).symm

/-- Each entity with whether it is kept, where `last` is the last one kept before. -/
def choicesFrom (last : Option Entity) : List Entity → List (Entity × Bool)
  | [] => []
  | entity :: rest =>
    if last.any fun kept => kept.span.overlaps entity.span then (entity, false) :: choicesFrom last rest
    else (entity, true) :: choicesFrom (some entity) rest

theorem map_fst_choicesFrom (last : Option Entity) (entities : List Entity) :
    (choicesFrom last entities).map Prod.fst = entities := by
  induction entities generalizing last with
  | nil => rfl
  | cons entity rest ih =>
    rw [choicesFrom]
    split
    · rw [List.map_cons, ih]
    · rw [List.map_cons, ih]

/-- What is selected are the entities kept. -/
theorem kept_choicesFrom (last : Option Entity) (entities : List Entity) :
    ((choicesFrom last entities).filter Prod.snd).map Prod.fst = selectFrom last entities := by
  induction entities generalizing last with
  | nil => rfl
  | cons entity rest ih =>
    rw [choicesFrom, selectFrom]
    split
    · rw [List.filter_cons_of_neg (by simp), ih]
    · rw [List.filter_cons_of_pos rfl, List.map_cons, ih]

/-- An entity is dropped because of one that is kept before it. -/
theorem exists_kept_of_dropped {before after : List (Entity × Bool)}
    (dropped : choicesFrom last entities = before ++ (entity, false) :: after) :
    ∃ kept, (last = some kept ∨ (kept, true) ∈ before) ∧ kept.span.overlaps entity.span = true := by
  induction entities generalizing last before with
  | nil => simp [choicesFrom] at dropped
  | cons first rest ih =>
    rw [choicesFrom] at dropped
    split at dropped
    · rename_i overlapped
      cases before with
      | nil =>
        obtain ⟨same, _⟩ := List.cons.inj dropped
        obtain ⟨kept, given, meets⟩ := (Option.any_eq_true _ _).mp overlapped
        obtain rfl : first = entity := congrArg Prod.fst same
        exact ⟨kept, .inl given, meets⟩
      | cons choice others =>
        obtain ⟨_, later⟩ := List.cons.inj dropped
        obtain ⟨kept, given, meets⟩ := ih later
        exact ⟨kept, given.imp_right (List.mem_cons_of_mem _), meets⟩
    · cases before with
      | nil => simp at dropped
      | cons choice others =>
        obtain ⟨rfl, later⟩ := List.cons.inj dropped
        obtain ⟨kept, given, meets⟩ := ih later
        refine ⟨kept, .inr ?_, meets⟩
        rcases given with same | member
        · exact Option.some.inj same ▸ List.mem_cons_self
        · exact List.mem_cons_of_mem _ member

theorem selectFrom_sublist (last : Option Entity) (entities : List Entity) :
    (selectFrom last entities).Sublist entities := by
  have kept := (List.filter_sublist (p := Prod.snd) (l := choicesFrom last entities)).map Prod.fst
  rwa [kept_choicesFrom, map_fst_choicesFrom] at kept

/-- Among entities in the order of their starts, what is kept starts after the end of what was kept
before. -/
theorem pairwise_selectFrom (last : Option Entity)
    (proper : ∀ entity ∈ entities, entity.span.start < entity.span.stop)
    (sorted : (last.toList ++ entities).Pairwise fun left right => left.span.start ≤ right.span.start) :
    (last.toList ++ selectFrom last entities).Pairwise fun left right => left.span.stop ≤ right.span.start := by
  induction entities generalizing last with
  | nil => cases last <;> simp [selectFrom]
  | cons first rest ih =>
    obtain ⟨order, others⟩ := List.forall_mem_cons.mp proper
    obtain ⟨_, further, before⟩ := List.pairwise_append.mp sorted
    rw [selectFrom]
    split
    · exact ih last others (sorted.sublist ((List.sublist_cons_self first rest).append_left last.toList))
    · rename_i free
      have apart : (first :: selectFrom (some first) rest).Pairwise
          fun left right => left.span.stop ≤ right.span.start := ih (some first) others further
      cases last with
      | none => exact apart
      | some kept =>
        have start := before kept (by simp) first List.mem_cons_self
        have stop : kept.span.stop ≤ first.span.start := by
          simp [Span.overlaps] at free
          omega
        refine List.pairwise_cons.mpr ⟨?_, apart⟩
        intro later member
        rcases List.mem_cons.mp member with rfl | member
        · exact stop
        · have ends := (List.pairwise_cons.mp apart).1 later member
          omega

/-- Removing overlaps is a maximal selection that prefers earlier entities: what is kept is in the order of the
starts, stands apart and occurs among the entities given, as often at most. Each entity that is dropped
overlaps one that is kept and stands before it in that order. What is kept is kept again. -/
theorem selectDisjoint_maximal (entities : List Entity)
    (proper : ∀ entity ∈ entities, entity.span.start < entity.span.stop) :
    ((selectDisjoint entities).Pairwise fun left right => left.span.start ≤ right.span.start) ∧
      ((selectDisjoint entities).Pairwise fun left right => left.span.overlaps right.span = false) ∧
      (∀ entity, (selectDisjoint entities).count entity ≤ entities.count entity) ∧
      (∃ choices : List (Entity × Bool), IsStartOrder entities (choices.map Prod.fst) ∧
        (choices.filter Prod.snd).map Prod.fst = selectDisjoint entities ∧
        ∀ before dropped after, choices = before ++ (dropped, false) :: after →
          ∃ kept, (kept, true) ∈ before ∧ kept.span.overlaps dropped.span = true) ∧
      selectDisjoint (selectDisjoint entities) = selectDisjoint entities := by
  have same : (inOrder entities).Perm entities := List.mergeSort_perm _ _
  have selected : (selectDisjoint entities).Sublist (inOrder entities) := selectFrom_sublist none _
  have apart : (selectDisjoint entities).Pairwise fun left right => left.span.stop ≤ right.span.start :=
    pairwise_selectFrom none (fun entity member => proper entity (same.subset member)) (pairwise_start_inOrder entities)
  have proper' : ∀ entity ∈ selectDisjoint entities, entity.span.start < entity.span.stop :=
    fun entity member => proper entity (same.subset (selected.subset member))
  refine ⟨(pairwise_start_inOrder entities).sublist selected, apart.imp overlaps_of_stop_le, ?_, ?_, ?_⟩
  · intro entity
    rw [← same.count_eq]
    exact selected.count_le entity
  · refine ⟨choicesFrom none (inOrder entities), ?_, kept_choicesFrom none _, ?_⟩
    · rw [map_fst_choicesFrom]
      exact isStartOrder_inOrder entities
    · intro before dropped after cut
      obtain ⟨kept, given, meets⟩ := exists_kept_of_dropped cut
      exact ⟨kept, given.resolve_left (by simp), meets⟩
  · rw [selectDisjoint, inOrder_of_pairwise proper' apart]
    exact selectFrom_of_pairwise none apart

/-- Five hashtags, given out of order: of the two that start at the beginning the one given first is kept, though
the other one would leave more room. -/
theorem selectDisjoint_maximal_chain :
    let entities : List Entity := [⟨.hashtag ['c'], 6, 9⟩, ⟨.hashtag ['a'], 0, 5⟩, ⟨.hashtag ['d'], 8, 12⟩,
      ⟨.hashtag ['b'], 0, 2⟩, ⟨.hashtag ['e'], 4, 6⟩]
    (∀ entity ∈ entities, entity.span.start < entity.span.stop) ∧
      selectDisjoint entities = [⟨.hashtag ['a'], 0, 5⟩, ⟨.hashtag ['c'], 6, 9⟩] ∧
      ((selectDisjoint entities).Pairwise fun left right => left.span.overlaps right.span = false) ∧
      (∃ choices : List (Entity × Bool), IsStartOrder entities (choices.map Prod.fst) ∧
        (choices.filter Prod.snd).map Prod.fst = selectDisjoint entities ∧
        ∀ before dropped after, choices = before ++ (dropped, false) :: after →
          ∃ kept, (kept, true) ∈ before ∧ kept.span.overlaps dropped.span = true) ∧
      selectDisjoint (selectDisjoint entities) = selectDisjoint entities := by
  intro entities
  have proper : ∀ entity ∈ entities, entity.span.start < entity.span.stop := by decide
  obtain ⟨_, apart, _, chosen, again⟩ := selectDisjoint_maximal entities proper
  have ordered : inOrder entities = [⟨.hashtag ['a'], 0, 5⟩, ⟨.hashtag ['b'], 0, 2⟩, ⟨.hashtag ['e'], 4, 6⟩,
      ⟨.hashtag ['c'], 6, 9⟩, ⟨.hashtag ['d'], 8, 12⟩] := by
    simp [entities, inOrder, List.mergeSort, List.MergeSort.Internal.splitInTwo]
  refine ⟨proper, ?_, apart, chosen, again⟩
  rw [selectDisjoint, ordered]
  decide

end PostMarkup.Entity
