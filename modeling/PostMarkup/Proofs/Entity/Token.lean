import Mathlib.Data.List.Infix
import PostMarkup.Proofs.Entity.Slice

/-! # Where entities stand

Every entity that a scan finds takes at least one character, ends inside the text and stands on one
line. What stands in an address is a piece of the text with its references read.
-/

namespace PostMarkup

open PostMarkup.Text PostMarkup.Unicode

/-- Whether a kind of entity can be read from a text: its words stand on one line, and an address
is a piece of the text. -/
def EntityKind.ReadFrom (text : List Char) : EntityKind → Prop
  | .url address => ∃ slice, slice <:+: text ∧ '\n' ∉ slice ∧ address = unescape slice
  | .hashtag tag => '\n' ∉ tag
  | .mention account => '\n' ∉ account
  | .markup => False

variable {form : TextForm} {bare : Bool} {before text : List Char}

namespace Address

theorem dropUnpaired_isSuffix (close : Char) (opens closes : Nat) (address : List Char) :
    dropUnpaired close opens closes address <:+ address := by
  induction address generalizing closes with
  | nil => exact List.suffix_refl _
  | cons c rest ih =>
    unfold dropUnpaired
    split
    · exact (ih _).trans (List.suffix_cons ..)
    · exact List.suffix_refl _

theorem trimOnce_isSuffix (address : List Char) : trimOnce address <:+ address := by
  simp only [trimOnce, brackets, List.foldl_cons, List.foldl_nil, trimBracket]
  apply (dropUnpaired_isSuffix ..).trans
  apply (dropUnpaired_isSuffix ..).trans
  apply (dropUnpaired_isSuffix ..).trans
  exact List.dropWhile_suffix _

theorem trimReversed_isSuffix (address : List Char) : trimReversed form address <:+ address := by
  fun_induction trimReversed form address with
  | case1 address _ ih => exact ih.trans (List.drop_suffix ..)
  | case2 address _ _ ih => exact ih.trans (trimOnce_isSuffix _)
  | case3 => exact List.suffix_refl _

/-- Trimming leaves a start of an address. -/
theorem trim_isStart (address : List Char) : trim form address <+: address := by
  have ending : trimReversed form address.reverse <:+ address.reverse := trimReversed_isSuffix _
  rw [← List.reverse_reverse (trimReversed form address.reverse), List.reverse_suffix] at ending
  exact ending

/-- The scheme of an address holds nothing that ends it. -/
theorem not_mem_scheme {mark : Char} (stop : mark ∈ stops) {length : Nat}
    (found : schemeLength? bare text = some length) : mark ∉ text.take length := by
  have clean : ∀ mark ∈ stops, mark.toLower = mark ∧ ∀ scheme ∈ Url.linkedSchemes, mark ∉ scheme := by decide
  obtain ⟨small, outside⟩ := clean mark stop
  rcases cases_of_schemeLength? found with ⟨scheme, listed, starts, rfl⟩ | ⟨rfl, _⟩
  · intro member
    have inside := List.mem_map_of_mem (f := Char.toLower) member
    rw [small, ← lowerAscii, lowerAscii_take starts] at inside
    exact outside scheme listed inside
  · simp

/-- An address is a start of the text and holds nothing that ends it. -/
theorem isStart_of_read? {address : List Char} (found : read? form bare before text = some address) :
    address <+: text ∧ ∀ mark ∈ stops, mark ∉ address := by
  unfold read? at found
  split at found
  · exact absurd found (by simp)
  · obtain ⟨scheme, schemed, found⟩ := Option.bind_eq_some_iff.mp found
    simp only [Option.ite_none_left_eq_some, Option.some.injEq] at found
    obtain ⟨_, _, rfl⟩ := found
    generalize size : scheme + (host (text.drop scheme)).length = length
    have start : text.take length ++ run form (text.drop length) <+: text := by
      conv => rhs; rw [← List.take_append_drop length text]
      exact (List.prefix_append_right_inj _).mpr (run_isStart form _)
    have front : ∀ mark ∈ stops, mark ∉ text.take length := by
      intro mark stop
      have site : (text.drop scheme).take (host (text.drop scheme)).length = host (text.drop scheme) :=
        (List.prefix_iff_eq_take.mp (host_isStart _)).symm
      have unfit : fitsHost mark = false := (by decide : ∀ mark ∈ stops, fitsHost mark = false) mark stop
      have site' : mark ∉ host (text.drop scheme) := fun member =>
        not_mem_takeWhile unfit _ ((dropEndWhile_isStart _ _).subset member)
      rw [← size, List.take_add, site]
      exact List.not_mem_append (not_mem_scheme stop schemed) site'
    constructor
    · exact (trim_isStart _).trans start
    · intro mark stop member
      exact List.not_mem_append (front mark stop) (not_mem_run stop form _) ((trim_isStart _).subset member)

end Address

/-- What an entity takes of a text. -/
theorem EntityKind.readFrom_of_read? {kind : EntityKind} {length : Nat}
    (found : EntityKind.read? .html bare before text = some (kind, length)) :
    0 < length ∧ length ≤ text.length ∧ kind.ReadFrom text := by
  cases text with
  | nil => exact absurd found (by simp [EntityKind.read?])
  | cons c rest =>
    refine ⟨EntityKind.length_pos found, ?_⟩
    simp only [EntityKind.read?] at found
    split at found
    · obtain ⟨tag, read, same⟩ := Option.map_eq_some_iff.mp found
      cases same
      obtain ⟨start, _, line⟩ := Hashtag.isStart_of_read? read
      exact ⟨Nat.succ_le_succ start.length_le, line⟩
    · split at found
      · obtain ⟨account, read, same⟩ := Option.map_eq_some_iff.mp found
        cases same
        obtain ⟨start, _, line⟩ := Mention.isStart_of_read? read
        exact ⟨Nat.succ_le_succ start.length_le, line⟩
      · obtain ⟨address, read, same⟩ := Option.map_eq_some_iff.mp found
        cases same
        obtain ⟨start, clean⟩ := Address.isStart_of_read? read
        exact ⟨start.length_le, address, start.isInfix, clean _ (by decide), rfl⟩

def EntityKind.OnLine : EntityKind → Prop
  | .url address => '\n' ∉ address
  | .hashtag tag => '\n' ∉ tag
  | .mention account => '\n' ∉ account
  | .markup => False

/-- What is read from a text without numeric references stands on one line. -/
theorem EntityKind.ReadFrom.onLine {kind : EntityKind} (read : kind.ReadFrom text) (plain : NoNumerals text) :
    kind.OnLine := by
  cases kind with
  | url address =>
    obtain ⟨piece, ⟨front, back, rfl⟩, line, rfl⟩ := read
    have plain' := (NoNumerals.of_append _ _ (NoNumerals.of_append _ _ plain).1).2
    exact newline_not_mem_unescape plain' line
  | hashtag tag => exact read
  | mention account => exact read
  | markup => exact read

theorem EntityKind.ReadFrom.of_infix {kind : EntityKind} {part : List Char}
    (read : kind.ReadFrom part) (inside : part <:+: text) : kind.ReadFrom text := by
  cases kind with
  | url address =>
    obtain ⟨slice, within, line, same⟩ := read
    exact ⟨slice, within.trans inside, line, same⟩
  | hashtag tag => exact read
  | mention account => exact read
  | markup => exact read

/-- Whether an entity stands in a text that starts at a position, and was read from it. -/
structure Entity.StandsIn (position : Nat) (text : List Char) (entity : Entity) : Prop where
  start : position ≤ entity.span.start
  order : entity.span.start < entity.span.stop
  stop : entity.span.stop ≤ position + text.length
  read : entity.kind.ReadFrom text

/-- The entities of the rest of a text stand in this rest. -/
theorem Entity.standsIn_of_mem_scan {entity : Entity} {position : Nat}
    (found : entity ∈ scan .html bare position before text) : entity.StandsIn position text := by
  have later {c : Char} {rest : List Char} (taken position : Nat)
      (stands : entity.StandsIn (position + 1 + taken) (rest.drop taken)) :
      entity.StandsIn position (c :: rest) := by
    obtain ⟨start, order, stop, read⟩ := stands
    rw [List.length_drop] at stop
    refine ⟨by omega, order, by rw [List.length_cons]; omega, read.of_infix ?_⟩
    exact (List.drop_suffix taken rest).isInfix.trans (List.suffix_cons c rest).isInfix
  fun_induction scan .html bare position before text with
  | case1 => exact absurd found (by simp)
  | case2 position before c rest less taken ih => exact later taken position (ih found)
  | case3 position before c rest notLess kind length took ih =>
    obtain ⟨positive, bound, read⟩ := EntityKind.readFrom_of_read? took
    rcases List.mem_cons.mp found with rfl | found
    · exact ⟨Nat.le_refl _, Nat.lt_add_of_pos_right positive, Nat.add_le_add_left bound _, read⟩
    · apply later (length - 1) position
      have same : position + 1 + (length - 1) = position + length := by omega
      rw [same]
      exact ih found
  | case4 position before c rest notLess nothing ih => exact later 0 position (ih found)

/-- The entities that are extracted from a text stand in it. -/
theorem Entity.standsIn_of_mem_extract {entity : Entity}
    (found : entity ∈ extract .html bare text) : entity.StandsIn 0 text :=
  standsIn_of_mem_scan (mem_scan_of_mem_extract found)

end PostMarkup
