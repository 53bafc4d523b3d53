import Mathlib.Data.List.Induction
import PostMarkup.Proofs.Entity.Escaped

/-! # Trimming an escaped address

Trimming drops an ampersand at the end of an address with its whole reference, and every other
character that it drops is escaped as itself. The one exception is an ampersand before punctuation:
with the punctuation goes the semicolon of its reference, and what is left of the reference is no
longer recognized.
-/

namespace PostMarkup.Address

open PostMarkup.Text

/-- The escaped form of a text, last character first. -/
def reversed (text : List Char) : List Char := (escapeText text).reverse

/-- The escaped form of a text and an ampersand without the semicolon of its reference, last
character first. -/
def reversedCut (text : List Char) : List Char := "&amp".toList.reverse ++ reversed text

/-- What trimming the escaped form of an address leaves, last character first: a start of the
address, or a start and the reference of an ampersand without its semicolon if punctuation follows
the ampersand. -/
inductive Trimmed (address : List Char) : List Char → Prop
  | whole {slice after : List Char} : address = slice ++ after → Trimmed address (reversed slice)
  | cut {slice after : List Char} {mark : Char} : address = slice ++ '&' :: mark :: after →
      isTrailing mark = true → Trimmed address (reversedCut slice)

variable {address front kept : List Char}

theorem Trimmed.append (trimmed : Trimmed front kept) (more : List Char) :
    Trimmed (front ++ more) kept := by
  cases trimmed with
  | whole same => exact .whole (by rw [same, List.append_assoc])
  | @cut slice after mark same trailing =>
    have longer : front ++ more = slice ++ '&' :: mark :: (after ++ more) := by
      rw [same, List.append_assoc]
      rfl
    exact .cut longer trailing

theorem Trimmed.of_start (trimmed : Trimmed front kept) (start : front <+: address) :
    Trimmed address kept := by
  obtain ⟨more, rfl⟩ := start
  exact trimmed.append more

theorem Trimmed.self (address : List Char) : Trimmed address (reversed address) :=
  .whole (List.append_nil address).symm

theorem reversed_concat (front : List Char) (c : Char) :
    reversed (front ++ [c]) = (escapeChar c).reverse ++ reversed front := by
  simp [reversed]

theorem reversed_concat_of_own {c : Char} (own : escapeChar c = [c]) (front : List Char) :
    reversed (front ++ [c]) = c :: reversed front := by
  rw [reversed_concat, own]
  rfl

/-- No escaped text ends inside the reference of an ampersand. -/
theorem not_ends_in_reference (text rest : List Char) :
    reversed text ≠ "&amp".toList.reverse ++ rest := by
  intro same
  have whole : escapeText text = rest.reverse ++ '&' :: "amp".toList := by
    have forward := congrArg List.reverse same
    simpa [reversed] using forward
  obtain ⟨name, listed, start⟩ := ReferencesOnly.escapeText text _ _ whole
  exact (by decide : ∀ name ∈ writtenReferences, ¬ name <+: "amp".toList) name listed start

theorem not_endsInAmpersand {c : Char} (own : escapeChar c = [c]) (front : List Char) :
    endsInAmpersand (reversed (front ++ [c])) = false := by
  rw [Bool.eq_false_iff, reversed_concat_of_own own]
  intro ends
  obtain ⟨rest, same⟩ := List.isPrefixOf_iff_prefix.mp ends
  obtain ⟨_, inside⟩ := List.cons.inj same
  exact not_ends_in_reference front rest inside.symm

/-- The escaped form of a text ends in the reference of an ampersand only if the text ends in an
ampersand. -/
theorem ends_of_endsInAmpersand (ends : endsInAmpersand (reversed address) = true) :
    ∃ front, address = front ++ ['&'] := by
  induction address using List.reverseRecOn with
  | nil => exact absurd ends (by decide)
  | append_singleton front c _ =>
    rcases escapeChar_eq c with own | ⟨rfl, _⟩ | ⟨rfl, written⟩ | ⟨rfl, written⟩
    · rw [not_endsInAmpersand own] at ends
      exact absurd ends Bool.false_ne_true
    · exact ⟨front, rfl⟩
    · rw [reversed_concat, written] at ends
      exact absurd ends Bool.false_ne_true
    · rw [reversed_concat, written] at ends
      exact absurd ends Bool.false_ne_true

/-- Punctuation at the end of an address is dropped, and the semicolon of an ampersand before it. -/
theorem trimmed_dropWhile (notAngle : '<' ∉ address ∧ '>' ∉ address)
    (notEnd : endsInAmpersand (reversed address) = false) :
    Trimmed address ((reversed address).dropWhile isTrailing) := by
  induction address using List.reverseRecOn with
  | nil => exact .self []
  | append_singleton front c ih =>
    have notAngle' : '<' ∉ front ∧ '>' ∉ front := by
      constructor
      · intro inside
        exact notAngle.1 (List.mem_append_left _ inside)
      · intro inside
        exact notAngle.2 (List.mem_append_left _ inside)
    rcases escapeChar_eq c with own | ⟨rfl, written⟩ | ⟨rfl, _⟩ | ⟨rfl, _⟩
    · by_cases trailing : isTrailing c = true
      · rw [reversed_concat_of_own own, List.dropWhile_cons_of_pos trailing]
        by_cases ends : endsInAmpersand (reversed front) = true
        · obtain ⟨slice, rfl⟩ := ends_of_endsInAmpersand ends
          have dropped : (reversed (slice ++ ['&'])).dropWhile isTrailing = reversedCut slice := by
            rw [reversed_concat]
            rfl
          have place : slice ++ ['&'] ++ [c] = slice ++ '&' :: c :: [] := List.append_assoc ..
          exact dropped ▸ .cut place trailing
        · exact (ih notAngle' (Bool.eq_false_iff.mpr ends)).append [c]
      · rw [reversed_concat_of_own own, List.dropWhile_cons_of_neg trailing,
          ← reversed_concat_of_own own]
        exact .self _
    · rw [reversed_concat, written] at notEnd
      exact absurd notEnd (by simp [endsInAmpersand])
    · exact absurd (List.mem_append_right front (List.mem_singleton_self _)) notAngle.1
    · exact absurd (List.mem_append_right front (List.mem_singleton_self _)) notAngle.2

/-- Closing brackets are dropped one by one. -/
theorem trimmed_dropUnpaired_reversed (close : Char) (opens closes : Nat) (other : ';' ≠ close)
    (address : List Char) : Trimmed address (dropUnpaired close opens closes (reversed address)) := by
  induction address using List.reverseRecOn generalizing closes with
  | nil => exact .self []
  | append_singleton front c ih =>
    have stays {rest : List Char} (shape : reversed (front ++ [c]) = ';' :: rest) :
        Trimmed (front ++ [c]) (dropUnpaired close opens closes (reversed (front ++ [c]))) := by
      have same : dropUnpaired close opens closes (reversed (front ++ [c])) =
          reversed (front ++ [c]) := by
        rw [shape]
        exact if_neg fun both => other both.1
      rw [same]
      exact .self _
    rcases escapeChar_eq c with own | ⟨rfl, _⟩ | ⟨rfl, _⟩ | ⟨rfl, _⟩
    · rw [reversed_concat_of_own own, dropUnpaired]
      split
      · exact (ih (closes - 1)).append [c]
      · rw [← reversed_concat_of_own own]
        exact .self _
    · exact stays (reversed_concat front '&')
    · exact stays (reversed_concat front '<')
    · exact stays (reversed_concat front '>')

theorem dropUnpaired_reversedCut {close : Char} (other : 'p' ≠ close) (opens closes : Nat)
    (slice : List Char) : dropUnpaired close opens closes (reversedCut slice) = reversedCut slice :=
  if_neg fun both => other both.1

theorem Trimmed.trimBracket (pair : Char × Char) (other : ';' ≠ pair.2 ∧ 'p' ≠ pair.2)
    (trimmed : Trimmed address kept) : Trimmed address (trimBracket kept pair) := by
  unfold Address.trimBracket
  cases trimmed with
  | @whole slice after same =>
    exact (trimmed_dropUnpaired_reversed pair.2 _ _ other.1 slice).of_start ⟨after, same.symm⟩
  | @cut slice _ _ same trailing =>
    rw [dropUnpaired_reversedCut other.2]
    exact .cut same trailing

theorem Trimmed.trimBrackets (trimmed : Trimmed address kept) :
    Trimmed address (brackets.foldl Address.trimBracket kept) := by
  have round := trimmed.trimBracket ('(', ')') (by decide)
  have square := round.trimBracket ('[', ']') (by decide)
  exact square.trimBracket ('\x7b', '\x7d') (by decide)

theorem trimmed_trimOnce (notAngle : '<' ∉ address ∧ '>' ∉ address)
    (notEnd : endsInAmpersand (reversed address) = false) :
    Trimmed address (trimOnce (reversed address)) :=
  (trimmed_dropWhile notAngle notEnd).trimBrackets

/-- An ampersand without its semicolon is not trimmed any more. -/
theorem trimReversed_reversedCut (slice : List Char) :
    trimReversed .html (reversedCut slice) = reversedCut slice := by
  have notEnd : endsInAmpersand (reversedCut slice) = false := rfl
  have none : (reversedCut slice).dropWhile isTrailing = reversedCut slice := rfl
  have once : trimOnce (reversedCut slice) = reversedCut slice := by
    simp only [trimOnce, none, brackets, List.foldl_cons, List.foldl_nil, trimBracket]
    rw [dropUnpaired_reversedCut (by decide), dropUnpaired_reversedCut (by decide),
      dropUnpaired_reversedCut (by decide)]
  rw [trimReversed, if_neg (by simp [notEnd]), once, if_neg (Nat.lt_irrefl _)]

theorem length_lt_of_reversed (start : front <+: address)
    (shorter : (reversed front).length < (reversed address).length) :
    front.length < address.length := by
  apply Nat.lt_of_le_of_ne start.length_le
  intro same
  rw [start.eq_of_length same] at shorter
  exact Nat.lt_irrefl _ shorter

theorem trimmed_trimReversed (notAngle : '<' ∉ address ∧ '>' ∉ address) :
    Trimmed address (trimReversed .html (reversed address)) := by
  induction size : address.length using Nat.strong_induction_on generalizing address with
  | _ size ih =>
    subst size
    have shorter {front : List Char} (start : front <+: address)
        (less : front.length < address.length) :
        Trimmed address (trimReversed .html (reversed front)) := by
      refine (ih front.length less ⟨?_, ?_⟩ rfl).of_start start
      · intro inside
        exact notAngle.1 (start.subset inside)
      · intro inside
        exact notAngle.2 (start.subset inside)
    rw [trimReversed]
    split
    · rename_i ends
      obtain ⟨front, rfl⟩ := ends_of_endsInAmpersand ends.2
      have dropped : (reversed (front ++ ['&'])).drop 5 = reversed front := by
        rw [reversed_concat]
        rfl
      rw [dropped]
      exact shorter (List.prefix_append ..) (by simp)
    · rename_i notEnd
      split
      · rename_i less
        have once := trimmed_trimOnce notAngle (by simpa using notEnd)
        generalize trimOnce (reversed address) = kept at once less
        cases once with
        | @whole slice after same =>
          have start : slice <+: address := ⟨after, same.symm⟩
          exact shorter start (length_lt_of_reversed start less)
        | cut same trailing =>
          rw [trimReversed_reversedCut]
          exact .cut same trailing
      · exact .self address

theorem trim_escapeText (notAngle : '<' ∉ address ∧ '>' ∉ address) :
    Trimmed address (trim .html (escapeText address)).reverse := by
  unfold trim
  rw [List.reverse_reverse]
  exact trimmed_trimReversed notAngle

/-- The ways in which an address can be trimmed, read forwards. -/
theorem Trimmed.forwards {written : List Char} (trimmed : Trimmed address written.reverse) :
    (∃ slice after, address = slice ++ after ∧ written = escapeText slice) ∨
      ∃ slice mark after, address = slice ++ '&' :: mark :: after ∧ isTrailing mark = true ∧
        written = escapeText slice ++ "&amp".toList := by
  generalize same : written.reverse = kept at trimmed
  obtain rfl := List.reverse_eq_iff.mp same
  cases trimmed with
  | @whole slice after inside => exact .inl ⟨slice, after, inside, List.reverse_reverse _⟩
  | @cut slice after mark inside trailing =>
    refine .inr ⟨slice, mark, after, inside, trailing, ?_⟩
    rw [reversedCut, List.reverse_append, List.reverse_reverse, reversed, List.reverse_reverse]

end PostMarkup.Address
