import PostMarkup.Proofs.BBCode.Replaced

/-! # Passages between places

A place is given by the open elements around it, with the numbers under which a reader opened them.
New elements get greater numbers than all before, so the numbers grow inwards. A passage leads from
one place in markup to another: it leaves some elements and then enters new ones, and between that
pairs of brackets may be replaced. A passage that ends in the element where it begins leaves and
enters none.
-/

namespace PostMarkup.BBCode

/-- The open elements around a place, innermost first, with their numbers. -/
abbrev Place := List (Nat × List Char)

namespace Place

variable {place : Place} {last : Nat}

def names (place : Place) : List (List Char) := place.map Prod.snd

/-- The number of the innermost element, zero outside all elements. -/
def element (place : Place) : Nat := (place.map Prod.fst).head?.getD 0

/-- Whether the numbers grow inwards, up to the last one that is given. -/
structure Numbered (last : Nat) (place : Place) : Prop where
  grows : place.Pairwise fun inner around => around.1 < inner.1
  bounds : ∀ opened ∈ place, 0 < opened.1 ∧ opened.1 ≤ last

namespace Numbered

theorem nil : Numbered last [] where
  grows := .nil
  bounds := by simp

theorem enter (numbered : Numbered last place) (name : List Char) :
    Numbered (last + 1) ((last + 1, name) :: place) where
  grows := List.pairwise_cons.mpr
    ⟨fun opened member => Nat.lt_succ_of_le (numbered.bounds opened member).2, numbered.grows⟩
  bounds := by
    intro opened member
    rcases List.mem_cons.mp member with rfl | member
    · exact ⟨Nat.succ_pos last, Nat.le_refl _⟩
    · obtain ⟨positive, bound⟩ := numbered.bounds opened member
      exact ⟨positive, Nat.le_succ_of_le bound⟩

theorem leave {opened : Nat × List Char} (numbered : Numbered last (opened :: place)) :
    Numbered last place where
  grows := (List.pairwise_cons.mp numbered.grows).2
  bounds := fun other member => numbered.bounds other (List.mem_cons_of_mem _ member)

theorem element_le (numbered : Numbered last place) : place.element ≤ last := by
  cases place with
  | nil => exact Nat.zero_le _
  | cons opened around => exact (numbered.bounds opened List.mem_cons_self).2

/-- The elements further out have smaller numbers than the innermost one. -/
theorem element_lt {opened : Nat × List Char} {others base : Place}
    (numbered : Numbered last (opened :: (others ++ base))) : base.element < opened.1 := by
  cases base with
  | nil => exact (numbered.bounds opened List.mem_cons_self).1
  | cons around further =>
    have grows := (List.pairwise_cons.mp numbered.grows).1
    exact grows around (List.mem_append_right _ List.mem_cons_self)

end Numbered

end Place

/-- Pieces that lead from one place to another, and the text that is written for them; elements that are
entered get greater numbers than `last`. -/
inductive Passage (table : Table) (last : Nat) : Place → List Piece → List Char → Place → Prop
  | stay {place : Place} {parts : List Piece} {out : List Char} :
      Replaced table place.names parts out → Passage table last place parts out place
  | leave {number : Nat} {tag : Tag} {place second : Place} {parts rest : List Piece} {out back : List Char} :
      Replaced table (tag.name :: place.names) parts out → tag.closing = true →
      Passage table last place rest back second →
      Passage table last ((number, tag.name) :: place) (parts ++ .tag tag :: rest)
        (out ++ (tag.source ++ back)) second
  | enter {number : Nat} {tag : Tag} {first place : Place} {parts rest : List Piece} {out back : List Char} :
      Passage table last first parts out place → tag.Opens → last < number →
      Replaced table (tag.name :: place.names) rest back →
      Passage table last first (parts ++ .tag tag :: rest) (out ++ (tag.source ++ back))
        ((number, tag.name) :: place)

namespace Passage

variable {table : Table} {last later number : Nat} {first middle second place : Place}
  {parts rest : List Piece} {out back : List Char} {tag : Tag}

theorem start : Passage table last place [] [] place := .stay .nil

/-- A passage goes on in the same element. -/
theorem extend (passage : Passage table last first parts out place)
    (replaced : Replaced table place.names rest back) :
    Passage table last first (parts ++ rest) (out ++ back) place := by
  induction passage with
  | stay before => exact .stay (before.append replaced)
  | leave before closes _ ih =>
    simp only [List.append_assoc, List.cons_append]
    exact .leave before closes (ih replaced)
  | enter before opens fresh inside _ =>
    simp only [List.append_assoc, List.cons_append]
    exact .enter before opens fresh (inside.append replaced)

/-- The innermost element is left. -/
theorem exit (passage : Passage table last first parts out ((number, tag.name) :: place))
    (closes : tag.closing = true) :
    Passage table last first (parts ++ [.tag tag]) (out ++ tag.source) place := by
  generalize around : (number, tag.name) :: place = second at passage
  induction passage with
  | stay before =>
    subst around
    have after : Passage table last place [] [] place := .start
    simpa using Passage.leave before closes after
  | leave before closes' _ ih =>
    simpa using Passage.leave before closes' (ih around)
  | enter before opens fresh inside _ =>
    obtain ⟨same, rfl⟩ := List.cons.inj around
    have named := (Prod.mk.inj same).2
    simpa using before.extend (.element opens closes named inside .nil)

/-- An element is entered. -/
theorem into (passage : Passage table last first parts out place) (opens : tag.Opens) (fresh : last < number) :
    Passage table last first (parts ++ [.tag tag]) (out ++ tag.source) ((number, tag.name) :: place) := by
  simpa using Passage.enter passage opens fresh .nil

theorem trans (before : Passage table last first parts out middle)
    (after : Passage table later middle rest back second) (order : last ≤ later) :
    Passage table last first (parts ++ rest) (out ++ back) second := by
  induction after generalizing parts out with
  | stay replaced => exact before.extend replaced
  | leave replaced closes _ ih =>
    simpa using ih ((before.extend replaced).exit closes)
  | enter _ opens fresh replaced ih =>
    simpa using Passage.enter (ih before) opens (Nat.lt_of_le_of_lt order fresh) replaced

/-- A passage ends further out, or in a new element. -/
theorem isSuffix_or_lt (passage : Passage table last first parts out second) :
    (∃ exited, first = exited ++ second) ∨ last < second.element := by
  induction passage with
  | stay _ => exact .inl ⟨[], rfl⟩
  | leave _ _ _ ih =>
    rcases ih with ⟨exited, rfl⟩ | fresh
    · exact .inl ⟨_ :: exited, rfl⟩
    · exact .inr fresh
  | enter _ _ fresh _ _ => exact .inr fresh

/-- A passage from an element to the same leaves none and enters none. -/
theorem returns (passage : Passage table last first parts out second) (numbered : first.Numbered last)
    (same : first.element = second.element) :
    first = second ∧ Replaced table first.names parts out := by
  have low := numbered.element_le
  cases passage with
  | stay replaced => exact ⟨rfl, replaced⟩
  | @leave number tag place _ _ _ _ _ _ _ passage =>
    have own : Place.element ((number, tag.name) :: place) = number := rfl
    rcases passage.isSuffix_or_lt with ⟨exited, rfl⟩ | fresh
    · have outward := numbered.element_lt
      omega
    · omega
  | @enter number tag _ place _ _ _ _ _ _ fresh _ =>
    have own : Place.element ((number, tag.name) :: place) = number := rfl
    omega

end Passage

end PostMarkup.BBCode
