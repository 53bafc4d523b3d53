import PostMarkup.Proofs.Entity.Plain

/-! # Narrow signs

The narrow form of plain text has the wide signs of its hashtags and mentions made narrow and is the
text otherwise. It consists of the characters of the text and of the narrow forms of its entities.
-/

namespace PostMarkup

open PostMarkup.Text

namespace Entity

def narrowSign (c : Char) : Char := if c = '＃' then '#' else if c = '＠' then '@' else c

def isSigned (entity : Entity) : Bool := entity.kind matches .hashtag _ | .mention _

/-- A character at a position of a text with the given entities, made narrow if it is the sign of one of
them. -/
def narrowAt (entities : List Entity) (position : Nat) (c : Char) : Char :=
  if entities.any fun entity => entity.isSigned && entity.span.start = position then narrowSign c else c

/-- Plain text with the signs of its hashtags and mentions made narrow. -/
def narrowSigns (bare : Bool) (text : List Char) : List Char :=
  text.mapIdx (narrowAt (extract .plain bare text))

end Entity

def EntityKind.narrow : EntityKind → List Char
  | .url address => address
  | .hashtag tag => '#' :: tag
  | .mention account => '@' :: account
  | .markup => []

/-- The narrow form of the slice of an entity is on one line and not blank. -/
theorem EntityKind.StandsFor.narrow {kind : EntityKind} {slice : List Char} (stands : kind.StandsFor slice) :
    '\n' ∉ kind.narrow ∧ isBlankLine kind.narrow = false := by
  have line := stands.line
  have reads := stands.reads
  cases kind with
  | url address =>
    obtain rfl := reads
    exact ⟨line, stands.filled⟩
  | hashtag tag =>
    obtain ⟨_, _, rfl⟩ := reads
    simp only [List.mem_cons, not_or] at line
    exact ⟨List.not_mem_cons_of_ne_of_not_mem (by decide) line.2, rfl⟩
  | mention account =>
    obtain ⟨_, _, rfl⟩ := reads
    simp only [List.mem_cons, not_or] at line
    exact ⟨List.not_mem_cons_of_ne_of_not_mem (by decide) line.2, rfl⟩
  | markup => exact reads.elim

def TextPart.narrow : TextPart → List Char
  | char c => [c]
  | entity kind _ => kind.narrow

namespace Entity

variable {parts : List TextPart} {position : Nat} {entity : Entity}

theorem mapIdx_of_unchanged {change : Nat → Char → Char} {text : List Char}
    (same : ∀ index < text.length, ∀ c, change index c = c) : text.mapIdx change = text := by
  rw [List.mapIdx_eq_iff]
  intro index
  cases found : text[index]? with
  | none => rfl
  | some c =>
    obtain ⟨inside, _⟩ := List.getElem?_eq_some_iff.mp found
    simp [same index inside]

/-- Where no entity starts a character stays. -/
theorem narrowAt_of_ne {entities : List Entity} (apart : ∀ entity ∈ entities, entity.span.start ≠ position)
    (c : Char) : narrowAt entities position c = c := by
  rw [narrowAt, if_neg]
  simp only [List.any_eq_true, Bool.and_eq_true, decide_eq_true_eq, not_exists, not_and]
  intro entity member _
  exact apart entity member

/-- An entity that starts elsewhere does not matter. -/
theorem narrowAt_cons_of_ne {entities : List Entity} (apart : entity.span.start ≠ position) (c : Char) :
    narrowAt (entity :: entities) position c = narrowAt entities position c := by
  simp [narrowAt, apart]

/-- At the start of an entity its sign is made narrow. -/
theorem narrowAt_cons_self {kind : EntityKind} {stop : Nat} (later : List Entity) (c : Char) :
    narrowAt (⟨kind, position, stop⟩ :: later) position c =
      if isSigned ⟨kind, position, stop⟩ then narrowSign c else narrowAt later position c := by
  cases signed : isSigned ⟨kind, position, stop⟩ <;> simp [narrowAt, signed]

/-- The slice of an entity that no other entity starts in. -/
theorem mapIdx_slice {kind : EntityKind} {slice : List Char} {later : List Entity} (stands : kind.StandsFor slice)
    (apart : ∀ entity ∈ later, position + slice.length ≤ entity.span.start) :
    slice.mapIdx (fun index => narrowAt (⟨kind, position, position + slice.length⟩ :: later) (position + index)) =
      kind.narrow := by
  obtain ⟨sign, rest, rfl⟩ := List.exists_cons_of_length_pos stands.length_pos
  have others (index : Nat) (inside : index < rest.length) (c : Char) :
      narrowAt (⟨kind, position, position + (sign :: rest).length⟩ :: later) (position + (index + 1)) c = c := by
    apply narrowAt_of_ne
    refine List.forall_mem_cons.mpr ⟨by simp, fun entity member same => ?_⟩
    have bound := apart entity member
    rw [List.length_cons] at bound
    omega
  have start (c : Char) : narrowAt later position c = c := by
    apply narrowAt_of_ne
    intro entity member same
    have bound := apart entity member
    rw [List.length_cons] at bound
    omega
  rw [List.mapIdx_cons, mapIdx_of_unchanged others, Nat.add_zero, narrowAt_cons_self, start]
  have reads := stands.reads
  cases kind with
  | url address => exact reads.symm
  | hashtag tag =>
    obtain ⟨_, number, same⟩ := reads
    obtain ⟨rfl, rfl⟩ := List.cons.inj same
    rcases number with rfl | rfl <;> rfl
  | mention account =>
    obtain ⟨_, at', same⟩ := reads
    obtain ⟨rfl, rfl⟩ := List.cons.inj same
    rcases at' with rfl | rfl <;> rfl
  | markup => exact reads.elim

/-- The narrow form of plain text consists of the narrow forms of its parts. -/
theorem mapIdx_narrowAt (proper : ∀ part ∈ parts, part.IsProper) (position : Nat) :
    (parts.flatMap TextPart.source).mapIdx (fun index => narrowAt (entitiesOf position parts) (position + index)) =
      parts.flatMap TextPart.narrow := by
  induction parts generalizing position with
  | nil => rfl
  | cons part rest ih =>
    obtain ⟨first, others⟩ := List.forall_mem_cons.mp proper
    have bounds (position : Nat) (entity : Entity) (member : entity ∈ entitiesOf position rest) :=
      (bounds_of_mem_entitiesOf (fun part listed => (others part listed).isFilled) member).1
    rw [List.flatMap_cons, List.flatMap_cons, List.mapIdx_append]
    cases part with
    | char c =>
      have own : narrowAt (entitiesOf (position + 1) rest) position c = c := by
        apply narrowAt_of_ne
        intro entity member
        exact Nat.ne_of_gt (bounds _ entity member)
      have shifted (index : Nat) : narrowAt (entitiesOf (position + 1) rest) (position + (index + 1)) =
          narrowAt (entitiesOf (position + 1) rest) (position + 1 + index) := by
        rw [Nat.add_comm index, Nat.add_assoc]
      simp only [TextPart.source, TextPart.narrow, entitiesOf, List.length_singleton, shifted, ih others]
      simp [own]
    | entity kind slice =>
      have positive := EntityKind.StandsFor.length_pos first
      have shifted (index : Nat) : narrowAt (entitiesOf position (.entity kind slice :: rest))
          (position + (index + slice.length)) =
            narrowAt (entitiesOf (position + slice.length) rest) (position + slice.length + index) := by
        funext c
        rw [entitiesOf, narrowAt_cons_of_ne (by simp only; omega), Nat.add_comm index, Nat.add_assoc]
      simp only [TextPart.source, TextPart.narrow, shifted, ih others]
      rw [entitiesOf, mapIdx_slice first (bounds _)]

/-- The narrow form of a text holds carriage returns only where the text does. -/
theorem return_not_mem_narrowSigns {bare : Bool} {text : List Char} (returns : '\r' ∉ text) :
    '\r' ∉ narrowSigns bare text := by
  intro member
  obtain ⟨index, inside, same⟩ := List.mem_mapIdx.mp member
  apply returns
  have kept : text[index] = '\r' := by
    unfold narrowAt narrowSign at same
    split at same
    · split at same
      · exact absurd same (by decide)
      · split at same
        · exact absurd same (by decide)
        · exact same
    · exact same
  rw [← kept]
  exact List.getElem_mem inside

/-- Plain text is cut into proper parts: replacing its entities replaces these parts, and narrow signs are
written in them. -/
theorem exists_parts_of_text (bare : Bool) (text : List Char) :
    ∃ parts : List TextPart, text = parts.flatMap TextPart.source ∧ (∀ part ∈ parts, part.IsProper) ∧
      narrowSigns bare text = parts.flatMap TextPart.narrow ∧
      ∀ write, substitute .plain (fun entity slice => write entity.kind slice) (extract .plain bare text) text =
        .ok (parts.flatMap (TextPart.markup write)) := by
  obtain ⟨parts, rfl, proper, extracted⟩ := exists_parts_of_scan bare 0 [] text
  rw [← extract_eq_scan] at extracted
  refine ⟨parts, rfl, proper, ?_, fun write => ?_⟩
  · simpa [narrowSigns, extracted] using mapIdx_narrowAt proper 0
  · rw [extracted]
    exact substitute_entitiesOf proper write

end Entity

end PostMarkup
