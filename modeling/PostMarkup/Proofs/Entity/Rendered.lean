import PostMarkup.Proofs.Entity.Parts
import PostMarkup.Proofs.Entity.Token
import PostMarkup.Proofs.Markup.Outermost

/-! # The entities of rendered markup

Two readers go over the same markup: one finds the outermost elements that are left alone, the other
steps over tags and finds addresses, hashtags and mentions. What the second finds is kept where it
overlaps none of the elements. So all entities stand apart, each of them is replaced once, and every
character outside the addresses, hashtags and mentions stays where it is.
-/

namespace PostMarkup

/-- The characters of a text in a span. -/
def Span.slice (span : Span) (text : List Char) : List Char :=
  (text.drop span.start).take (span.stop - span.start)

/-- A part with finished markup cut into its characters. -/
def TextPart.released : TextPart → List TextPart
  | char c => [char c]
  | entity .markup slice => slice.map char
  | entity kind slice => [entity kind slice]

/-- Each span of an element among segments ends before the later ones start. -/
theorem pairwise_elementSpans (position : Nat) (segments : List Segment) :
    (∀ span ∈ elementSpans position segments, position ≤ span.start) ∧
      (elementSpans position segments).Pairwise fun left right => left.stop ≤ right.start := by
  induction segments generalizing position with
  | nil => exact ⟨by simp [elementSpans], .nil⟩
  | cons segment rest ih =>
    cases segment with
    | plain piece =>
      obtain ⟨starts, apart⟩ := ih (position + piece.source.length)
      exact ⟨fun span member => Nat.le_trans (Nat.le_add_right ..) (starts span member), apart⟩
    | element name inner =>
      obtain ⟨starts, apart⟩ := ih (position + (sourceOf inner).length)
      refine ⟨List.forall_mem_cons.mpr ⟨Nat.le_refl _, ?_⟩, .cons starts apart⟩
      exact fun span member => Nat.le_trans (Nat.le_add_right ..) (starts span member)

variable {form : TextForm} {bare : Bool} {position : Nat} {before text markup : List Char}

/-- What is read at the start of a text takes no angle bracket. -/
theorem EntityKind.not_mem_of_read? {kind : EntityKind} {length : Nat}
    (found : EntityKind.read? form bare before text = some (kind, length)) :
    length ≤ text.length ∧ '<' ∉ text.take length ∧ '>' ∉ text.take length := by
  have signed {c : Char} {word rest : List Char} (sign : '<' ≠ c ∧ '>' ≠ c) (start : word <+: rest)
      (plain : IsUnescaped word) : word.length + 1 ≤ (c :: rest).length ∧
        '<' ∉ (c :: rest).take (word.length + 1) ∧ '>' ∉ (c :: rest).take (word.length + 1) := by
    obtain ⟨after, rfl⟩ := start
    rw [List.take_succ_cons, List.take_left]
    exact ⟨by simp, List.not_mem_cons_of_ne_of_not_mem sign.1 plain.not_angle.1,
      List.not_mem_cons_of_ne_of_not_mem sign.2 plain.not_angle.2⟩
  cases text with
  | nil => exact absurd found (by simp [EntityKind.read?])
  | cons c rest =>
    simp only [EntityKind.read?] at found
    split at found
    · rename_i number
      obtain ⟨tag, read, same⟩ := Option.map_eq_some_iff.mp found
      cases same
      obtain ⟨start, plain, _⟩ := Hashtag.isStart_of_read? read
      exact signed (by rcases number with rfl | rfl <;> decide) start plain
    · split at found
      · rename_i at'
        obtain ⟨account, read, same⟩ := Option.map_eq_some_iff.mp found
        cases same
        obtain ⟨start, plain, _⟩ := Mention.isStart_of_read? read
        exact signed (by rcases at' with rfl | rfl <;> decide) start plain
      · obtain ⟨address, read, same⟩ := Option.map_eq_some_iff.mp found
        cases same
        obtain ⟨start, clean⟩ := Address.isStart_of_read? read
        rw [← List.prefix_iff_eq_take.mp start]
        exact ⟨start.length_le, clean _ (by decide), clean _ (by decide)⟩

namespace Entity

variable {entity : Entity} {entities : List Entity} {render : Entity → List Char → List Char}
  {parts : List TextPart}

/-- What a scan finds is read where it stands. -/
theorem exists_read?_of_mem_scan (found : entity ∈ scan form bare position before text) :
    ∃ front rest length, text = front ++ rest ∧
      EntityKind.read? form bare (front.reverse ++ before) rest = some (entity.kind, length) ∧
      entity.span = ⟨position + front.length, position + front.length + length⟩ := by
  have later {c : Char} {rest before : List Char} (taken position : Nat) (bound : taken ≤ rest.length)
      (stands : ∃ front after length, rest.drop taken = front ++ after ∧
        EntityKind.read? form bare (front.reverse ++ ((rest.take taken).reverse ++ c :: before)) after =
          some (entity.kind, length) ∧
        entity.span = ⟨position + 1 + taken + front.length, position + 1 + taken + front.length + length⟩) :
      ∃ front after length, c :: rest = front ++ after ∧
        EntityKind.read? form bare (front.reverse ++ before) after = some (entity.kind, length) ∧
        entity.span = ⟨position + front.length, position + front.length + length⟩ := by
    obtain ⟨front, after, length, whole, read, stands⟩ := stands
    have size : position + (c :: (rest.take taken ++ front)).length = position + 1 + taken + front.length := by
      rw [List.length_cons, List.length_append, List.length_take, Nat.min_eq_left bound]
      omega
    refine ⟨c :: (rest.take taken ++ front), after, length, ?_, ?_, size ▸ stands⟩
    · rw [List.cons_append, List.append_assoc, ← whole, List.take_append_drop]
    · simpa using read
  fun_induction scan form bare position before text with
  | case1 => exact absurd found (by simp)
  | case2 position before c rest html taken ih =>
    refine later taken position ?_ (ih found)
    cases read : Tag.read? (c :: rest) with
    | none => simp [taken, read]
    | some tag =>
      obtain ⟨after, whole, _⟩ := Tag.read?_source read
      have size := congrArg List.length whole
      rw [List.length_cons, List.length_append] at size
      simp only [taken, read, Option.map_some, Option.getD_some]
      omega
  | case3 position before c rest other kind length read ih =>
    obtain ⟨bound, _⟩ := EntityKind.not_mem_of_read? read
    have positive := EntityKind.length_pos read
    rcases List.mem_cons.mp found with rfl | found
    · exact ⟨[], c :: rest, length, rfl, read, rfl⟩
    · apply later (length - 1) position
      · rw [List.length_cons] at bound
        omega
      · have same : position + 1 + (length - 1) = position + length := by omega
        rw [same]
        exact ih found
  | case4 position before c rest other nothing ih => exact later 0 position (Nat.zero_le _) (ih found)

/-- What a scan finds stands between characters of the text and holds no angle bracket. -/
theorem exists_slice_of_mem_scan (found : entity ∈ scan form bare position before text) :
    ∃ front slice after, text = front ++ (slice ++ after) ∧ '<' ∉ slice ∧ '>' ∉ slice ∧
      entity.span = ⟨position + front.length, position + front.length + slice.length⟩ := by
  obtain ⟨front, rest, length, rfl, read, stands⟩ := exists_read?_of_mem_scan found
  obtain ⟨bound, less, greater⟩ := EntityKind.not_mem_of_read? read
  refine ⟨front, rest.take length, rest.drop length, ?_, less, greater, ?_⟩
  · rw [List.take_append_drop]
  · rw [List.length_take, Nat.min_eq_left bound, stands]

/-- What is extracted from markup is no element and holds no angle bracket. -/
theorem slice_of_mem_extract (found : entity ∈ extract .html bare markup) :
    entity.isMarkup = false ∧ '<' ∉ entity.span.slice markup ∧ '>' ∉ entity.span.slice markup := by
  have other : entity.isMarkup = false := by
    have read := (standsIn_of_mem_extract found).read
    obtain ⟨kind, span⟩ := entity
    cases kind with
    | markup => exact read.elim
    | _ => rfl
  obtain ⟨front, slice, after, rfl, less, greater, stands⟩ :=
    exists_slice_of_mem_scan (mem_scan_of_mem_extract found)
  have cut : entity.span.slice (front ++ (slice ++ after)) = slice := by
    rw [Span.slice, stands, Nat.zero_add, Nat.add_sub_cancel_left, List.drop_left, List.take_left]
  rw [cut]
  exact ⟨other, less, greater⟩

/-- Each entity that is extracted ends before the later ones start. -/
theorem pairwise_extract (form : TextForm) (bare : Bool) (text : List Char) :
    (extract form bare text).Pairwise fun left right => left.span.stop ≤ right.span.start := by
  rw [extract_eq_scan]
  exact pairwise_scan form bare 0 [] text

/-- Every entity of rendered markup covers at least one character, and its span ends inside the markup. -/
theorem bounds_of_mem_extractRendered (member : entity ∈ extractRendered bare markup) :
    entity.span.start < entity.span.stop ∧ entity.span.stop ≤ markup.length := by
  rcases List.mem_append.mp member with finished | found
  · obtain ⟨span, inside, rfl⟩ := List.mem_map.mp finished
    exact bounds_of_mem_outermostSpans inside
  · have stands := standsIn_of_mem_extract (List.mem_filter.mp found).1
    exact ⟨stands.order, by simpa using stands.stop⟩

/-- No two entities of rendered markup overlap. -/
theorem pairwise_extractRendered (bare : Bool) (markup : List Char) :
    (extractRendered bare markup).Pairwise fun left right => left.span.overlaps right.span = false := by
  refine List.pairwise_append.mpr ⟨?_, ?_, ?_⟩
  · have apart := (pairwise_elementSpans 0 (segments finishedElements (pieces markup))).2
    exact List.pairwise_map.mpr (apart.imp overlaps_of_stop_le)
  · exact ((pairwise_extract .html bare markup).imp overlaps_of_stop_le).filter _
  · intro element inside token found
    have free := (List.mem_filter.mp found).2
    rw [Bool.not_eq_true', List.any_eq_false] at free
    exact eq_false_of_ne_true (free element inside)

/-- Of the entities of rendered markup those that are no elements are extracted from it. -/
theorem mem_extract_of_mem_extractRendered (member : entity ∈ extractRendered bare markup)
    (other : entity.isMarkup = false) : entity ∈ extract .html bare markup ∧
      ∀ span ∈ outermostSpans finishedElements markup, span.overlaps entity.span = false := by
  rcases List.mem_append.mp member with finished | found
  · obtain ⟨span, _, rfl⟩ := List.mem_map.mp finished
    exact absurd other (by simp [isMarkup])
  · obtain ⟨extracted, free⟩ := List.mem_filter.mp found
    refine ⟨extracted, fun span inside => ?_⟩
    rw [Bool.not_eq_true', List.any_eq_false] at free
    exact eq_false_of_ne_true (free ⟨.markup, span⟩ (List.mem_map_of_mem inside))

theorem source_released (part : TextPart) : part.released.flatMap TextPart.source = part.source := by
  cases part with
  | char c => rfl
  | entity kind slice =>
    cases kind with
    | markup => exact source_chars slice
    | _ => exact List.append_nil _

/-- The entities that are left when the elements are cut into characters. -/
theorem entitiesOf_released (position : Nat) (parts : List TextPart) :
    entitiesOf position (parts.flatMap TextPart.released) =
      (entitiesOf position parts).filter fun entity => !entity.isMarkup := by
  induction parts generalizing position with
  | nil => rfl
  | cons part rest ih =>
    rw [List.flatMap_cons]
    cases part with
    | char c => exact ih _
    | entity kind slice =>
      cases kind with
      | markup => exact (entitiesOf_chars position slice _).trans (ih _)
      | _ => exact congrArg (List.cons _) (ih _)

/-- Where elements are rendered as they are, it makes no difference that they are cut into characters. -/
theorem renderedParts_released (kept : ∀ entity slice, entity.isMarkup = true → render entity slice = slice)
    (position : Nat) (parts : List TextPart) :
    renderedParts .html render position (parts.flatMap TextPart.released) =
      renderedParts .html render position parts := by
  induction parts generalizing position with
  | nil => rfl
  | cons part rest ih =>
    rw [List.flatMap_cons]
    cases part with
    | char c => exact congrArg (_ ++ ·) (ih _)
    | entity kind slice =>
      cases kind with
      | markup =>
        have own := kept ⟨.markup, position, position + slice.length⟩ slice rfl
        rw [TextPart.released, renderedParts_chars, ih, renderedParts, own]
        rfl
      | _ => exact congrArg (_ ++ ·) (ih _)

/-- The entities of rendered markup are not empty, lie in it and stand apart; those that are no elements
hold no angle bracket and overlap no element. So the markup is cut into all of its entities and the
characters between them, and replacing them renders each once from its own slice. If elements are
rendered as they are, every character outside the other entities stays where it is. -/
theorem substitute_extractRendered (bare : Bool) (markup : List Char) :
    let entities := extractRendered bare markup
    let tokens := entities.filter fun entity => !entity.isMarkup
    (∀ entity ∈ entities, entity.span.start < entity.span.stop ∧ entity.span.stop ≤ markup.length) ∧
      (entities.Pairwise fun left right => left.span.overlaps right.span = false) ∧
      (∀ token ∈ tokens, '<' ∉ token.span.slice markup ∧ '>' ∉ token.span.slice markup ∧
        ∀ span ∈ outermostSpans finishedElements markup, span.overlaps token.span = false) ∧
      (∃ parts : List TextPart, markup = parts.flatMap TextPart.source ∧ (entitiesOf 0 parts).Perm entities ∧
        ∀ render, substitute .html render entities markup = .ok (renderedParts .html render 0 parts)) ∧
      ∃ parts : List TextPart, markup = parts.flatMap TextPart.source ∧ (entitiesOf 0 parts).Perm tokens ∧
        ∀ render, (∀ entity slice, entity.isMarkup = true → render entity slice = slice) →
          substitute .html render entities markup = .ok (renderedParts .html render 0 parts) := by
  intro entities tokens
  have bounds : ∀ entity ∈ entities, entity.span.start < entity.span.stop ∧ entity.span.stop ≤ markup.length :=
    fun _ => bounds_of_mem_extractRendered
  have apart := pairwise_extractRendered bare markup
  obtain ⟨parts, rfl, filled, ordered⟩ := exists_parts_of_apart bounds apart
  have listed : (entitiesOf 0 parts).Perm entities := ordered ▸ List.mergeSort_perm _ _
  have replaced (render : Entity → List Char → List Char) :
      substitute .html render entities _ = .ok (renderedParts .html render 0 parts) :=
    substitute_of_parts filled ordered
  refine ⟨bounds, apart, ?_, ⟨parts, rfl, listed, replaced⟩, parts.flatMap TextPart.released, ?_, ?_, ?_⟩
  · intro token member
    obtain ⟨inside, other⟩ := List.mem_filter.mp member
    obtain ⟨extracted, free⟩ := mem_extract_of_mem_extractRendered inside (by simpa using other)
    obtain ⟨_, less, greater⟩ := slice_of_mem_extract extracted
    exact ⟨less, greater, free⟩
  · rw [List.flatMap_assoc]
    simp only [source_released]
  · rw [entitiesOf_released]
    exact listed.filter _
  · intro render kept
    rw [renderedParts_released kept]
    exact replaced render

/-- A hashtag after an element that holds another one, put in brackets. -/
theorem substitute_extractRendered_brackets :
    let markup := "<em>#a</em> #b".toList
    let render := fun (entity : Entity) slice => if entity.isMarkup then slice else '[' :: (slice ++ [']'])
    (∀ entity slice, entity.isMarkup = true → render entity slice = slice) ∧
      ∃ parts : List TextPart, markup = parts.flatMap TextPart.source ∧
        (entitiesOf 0 parts).Perm ((extractRendered false markup).filter fun entity => !entity.isMarkup) ∧
        substitute .html render (extractRendered false markup) markup = .ok (renderedParts .html render 0 parts) := by
  intro markup render
  have kept : ∀ entity slice, entity.isMarkup = true → render entity slice = slice := fun _ _ own => if_pos own
  obtain ⟨_, _, _, _, parts, cut, listed, replaced⟩ := substitute_extractRendered false markup
  exact ⟨kept, parts, cut, listed, replaced render kept⟩

end Entity

end PostMarkup
