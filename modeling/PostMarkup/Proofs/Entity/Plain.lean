import PostMarkup.Proofs.Entity.Parts
import PostMarkup.Proofs.Entity.Token
import PostMarkup.Proofs.Markup.Written

/-! # The entities of plain text

A scan cuts plain text into characters and the slices that its entities stand for. So the entities
come in order and none overlaps another, and replacing them loses none of the other characters.
-/

namespace PostMarkup

open PostMarkup.Text

/-- Whether an entity stands for a slice of plain text: it reads as the slice, which is on one line
and not blank. -/
structure EntityKind.StandsFor (kind : EntityKind) (slice : List Char) : Prop where
  reads : kind.Reads slice
  line : '\n' ∉ slice
  filled : isBlankLine slice = false

variable {bare : Bool} {before text : List Char}

theorem EntityKind.StandsFor.length_pos {kind : EntityKind} {slice : List Char}
    (stands : kind.StandsFor slice) : 0 < slice.length := by
  rw [List.length_pos_iff]
  rintro rfl
  exact absurd stands.filled (by decide)

theorem EntityKind.StandsFor.onLine {kind : EntityKind} {slice : List Char} (stands : kind.StandsFor slice) :
    kind.OnLine := by
  have reads := stands.reads
  have line := stands.line
  cases kind with
  | url address =>
    obtain rfl := reads
    exact line
  | hashtag tag =>
    obtain ⟨_, _, rfl⟩ := reads
    exact fun member => line (List.mem_cons_of_mem _ member)
  | mention account =>
    obtain ⟨_, _, rfl⟩ := reads
    exact fun member => line (List.mem_cons_of_mem _ member)
  | markup => exact reads.elim

/-- The scheme of an address starts with a letter, and an address without one with a letter or a
digit. -/
theorem Address.head_of_schemeLength? {length : Nat} (found : schemeLength? bare text = some length) :
    ∃ c rest, text = c :: rest ∧ isBlank c = false := by
  rcases cases_of_schemeLength? found with ⟨scheme, listed, starts, rfl⟩ | ⟨rfl, letter⟩
  · have first : ∀ scheme ∈ Url.linkedSchemes, scheme.head? = some 'h' := by decide
    have same := lowerAscii_take starts
    obtain ⟨others, rfl⟩ := List.head?_eq_some_iff.mp (first scheme listed)
    cases text with
    | nil => simp [lowerAscii] at same
    | cons c rest =>
      have small : c.toLower = 'h' := (List.cons.inj same).1
      refine ⟨c, rest, rfl, ?_⟩
      rw [Bool.eq_false_iff]
      intro blank
      rw [toLower_of_isBlank blank] at small
      subst small
      exact absurd blank (by decide)
  · cases text with
    | nil => simp at letter
    | cons c rest =>
      refine ⟨c, rest, rfl, ?_⟩
      rw [Bool.eq_false_iff]
      intro blank
      simp [not_isAlphanum_of_isBlank blank] at letter

/-- An address is not blank. -/
theorem Address.filled_of_read? {form : TextForm} {address : List Char}
    (found : read? form bare before text = some address) : isBlankLine address = false := by
  obtain ⟨⟨after, start⟩, _⟩ := isStart_of_read? found
  unfold read? at found
  split at found
  · exact absurd found (by simp)
  · obtain ⟨scheme, schemed, found⟩ := Option.bind_eq_some_iff.mp found
    simp only [Option.ite_none_left_eq_some, Option.some.injEq] at found
    obtain ⟨_, longer, same⟩ := found
    rw [same] at longer
    obtain ⟨c, rest, rfl, filled⟩ := head_of_schemeLength? schemed
    cases address with
    | nil => exact absurd (Nat.zero_le _) longer
    | cons d more =>
      obtain ⟨rfl, _⟩ := List.cons.inj start
      simp [isBlankLine, filled]

/-- What is read at the start of plain text stands for the slice that it takes. -/
theorem EntityKind.standsFor_of_read? {kind : EntityKind} {length : Nat}
    (found : EntityKind.read? .plain bare before text = some (kind, length)) :
    ∃ slice after, text = slice ++ after ∧ length = slice.length ∧ kind.StandsFor slice := by
  cases text with
  | nil => exact absurd found (by simp [EntityKind.read?])
  | cons c rest =>
    simp only [EntityKind.read?] at found
    split at found
    · rename_i number
      obtain ⟨tag, read, same⟩ := Option.map_eq_some_iff.mp found
      cases same
      obtain ⟨⟨after, rfl⟩, _, line⟩ := Hashtag.isStart_of_read? read
      have signs : '\n' ≠ c ∧ isBlank c = false := by rcases number with rfl | rfl <;> decide
      refine ⟨c :: tag, after, rfl, rfl, ⟨c, number, rfl⟩, ?_, ?_⟩
      · exact List.not_mem_cons_of_ne_of_not_mem signs.1 line
      · simp [isBlankLine, signs.2]
    · split at found
      · rename_i at'
        obtain ⟨account, read, same⟩ := Option.map_eq_some_iff.mp found
        cases same
        obtain ⟨⟨after, rfl⟩, _, line⟩ := Mention.isStart_of_read? read
        have signs : '\n' ≠ c ∧ isBlank c = false := by rcases at' with rfl | rfl <;> decide
        refine ⟨c :: account, after, rfl, rfl, ⟨c, at', rfl⟩, ?_, ?_⟩
        · exact List.not_mem_cons_of_ne_of_not_mem signs.1 line
        · simp [isBlankLine, signs.2]
      · obtain ⟨address, read, same⟩ := Option.map_eq_some_iff.mp found
        cases same
        obtain ⟨⟨after, whole⟩, clean⟩ := Address.isStart_of_read? read
        exact ⟨address, after, whole.symm, rfl, rfl, clean _ (by decide), Address.filled_of_read? read⟩

namespace TextPart

def markup (write : EntityKind → List Char → List Char) : TextPart → List Char
  | char c => escapeChar c
  | entity kind slice => write kind slice

/-- Whether the entity of a part stands for its slice. -/
def IsProper : TextPart → Prop
  | char _ => True
  | entity kind slice => kind.StandsFor slice

theorem IsProper.isFilled {part : TextPart} (proper : part.IsProper) : part.IsFilled := by
  cases part with
  | char c => exact Nat.one_pos
  | entity kind slice => exact EntityKind.StandsFor.length_pos proper

end TextPart

namespace Entity

/-- A scan of plain text cuts it into proper parts. -/
theorem exists_parts_of_scan (bare : Bool) (position : Nat) (before text : List Char) :
    ∃ parts : List TextPart, text = parts.flatMap TextPart.source ∧ (∀ part ∈ parts, part.IsProper) ∧
      scan .plain bare position before text = entitiesOf position parts := by
  fun_induction scan .plain bare position before text with
  | case1 => exact ⟨[], rfl, by simp, rfl⟩
  | case2 position before c rest html => exact absurd html.1 (by simp)
  | case3 position before c rest _ kind length read ih =>
    obtain ⟨slice, after, whole, rfl, stands⟩ := EntityKind.standsFor_of_read? read
    obtain ⟨d, more, rfl⟩ := List.exists_cons_of_length_pos stands.length_pos
    obtain ⟨rfl, rfl⟩ := List.cons.inj whole
    obtain ⟨parts, split, proper, scanned⟩ := ih
    refine ⟨.entity kind (c :: more) :: parts, ?_, List.forall_mem_cons.mpr ⟨stands, proper⟩, ?_⟩
    · simpa [TextPart.source] using split
    · rw [entitiesOf, scanned]
  | case4 position before c rest _ _ ih =>
    obtain ⟨parts, rfl, proper, scanned⟩ := ih
    exact ⟨.char c :: parts, rfl, List.forall_mem_cons.mpr ⟨trivial, proper⟩, scanned⟩

/-- Proper parts are written one by one. -/
theorem renderedParts_plain (write : EntityKind → List Char → List Char) (position : Nat) (parts : List TextPart) :
    renderedParts .plain (fun entity slice => write entity.kind slice) position parts =
      parts.flatMap (TextPart.markup write) := by
  induction parts generalizing position with
  | nil => rfl
  | cons part rest ih =>
    cases part with
    | char c => simp [renderedParts, ih, TextPart.markup, TextForm.markup]
    | entity kind slice => simp [renderedParts, ih, TextPart.markup]

/-- Plain text with its entities written anew. -/
theorem substitute_entitiesOf {parts : List TextPart} (proper : ∀ part ∈ parts, part.IsProper)
    (write : EntityKind → List Char → List Char) :
    substitute .plain (fun entity slice => write entity.kind slice) (entitiesOf 0 parts)
        (parts.flatMap TextPart.source) = .ok (parts.flatMap (TextPart.markup write)) := by
  have filled : ∀ part ∈ parts, part.IsFilled := fun part member => (proper part member).isFilled
  rw [substitute_of_parts filled (inOrder_entitiesOf filled 0), renderedParts_plain]

end Entity

end PostMarkup
