import PostMarkup.Entity.Address
import PostMarkup.Proofs.Reference
import PostMarkup.Proofs.Text.Lines

/-! # Reading escaped text

Words, schemes, hosts and the characters of an address are read in escaped text just as in the text
itself, because an ampersand is no part of a word, a scheme or a host, and because the references of
angle brackets end an address as the brackets do.
-/

namespace PostMarkup

open PostMarkup.Text PostMarkup.Unicode

/-- A text whose characters are all escaped as themselves. -/
def IsUnescaped (text : List Char) : Prop := ∀ c ∈ text, escapeChar c = [c]

theorem escapeText_of_isUnescaped {text : List Char} (plain : IsUnescaped text) :
    escapeText text = text := by
  induction text with
  | nil => rfl
  | cons c rest ih =>
    obtain ⟨first, others⟩ := List.forall_mem_cons.mp plain
    rw [escapeText_cons, first, ih others]
    rfl

/-- A character that is escaped is written as an ampersand and a reference to it. -/
theorem escapeChar_eq (c : Char) : escapeChar c = [c] ∨
    (c = '&' ∧ escapeChar c = "&amp;".toList) ∨ (c = '<' ∧ escapeChar c = "&lt;".toList) ∨
      (c = '>' ∧ escapeChar c = "&gt;".toList) := by
  unfold escapeChar
  split
  · exact .inr (.inl ⟨rfl, rfl⟩)
  · exact .inr (.inr (.inl ⟨rfl, rfl⟩))
  · exact .inr (.inr (.inr ⟨rfl, rfl⟩))
  · exact .inl rfl

/-- A character of an escaped text that starts no reference stands for itself. -/
theorem eq_cons_of_escapeText {c : Char} {text more : List Char} (other : c ≠ '&')
    (written : escapeText text = c :: more) :
    ∃ rest, text = c :: rest ∧ more = escapeText rest ∧ escapeChar c = [c] := by
  cases text with
  | nil => exact absurd written (by simp)
  | cons d rest =>
    rw [escapeText_cons] at written
    rcases escapeChar_eq d with own | ⟨_, reference⟩ | ⟨_, reference⟩ | ⟨_, reference⟩
    · rw [own] at written
      obtain ⟨rfl, rfl⟩ := List.cons.inj written
      exact ⟨rest, rfl, rfl, own⟩
    all_goals
      rw [reference] at written
      exact absurd (List.cons.inj written).1.symm other

variable {text : List Char} {keep : Char → Bool}

/-- A run of characters none of which is escaped is the same in escaped text. -/
theorem takeWhile_escapeText (stops : keep '&' = false ∧ keep '<' = false ∧ keep '>' = false)
    (text : List Char) : (escapeText text).takeWhile keep = text.takeWhile keep := by
  induction text with
  | nil => rfl
  | cons c rest ih =>
    rw [escapeText_cons]
    rcases escapeChar_eq c with own | ⟨rfl, written⟩ | ⟨rfl, written⟩ | ⟨rfl, written⟩
    · rw [own, List.singleton_append, List.takeWhile_cons, List.takeWhile_cons, ih]
    · simp [written, stops]
    · simp [written, stops]
    · simp [written, stops]

theorem not_mem_takeWhile {c : Char} (stops : keep c = false) (text : List Char) :
    c ∉ text.takeWhile keep := by
  intro member
  have kept : keep c = true := List.all_eq_true.mp List.all_takeWhile c member
  simp [stops] at kept

theorem isUnescaped_takeWhile (stops : keep '&' = false ∧ keep '<' = false ∧ keep '>' = false)
    (text : List Char) : IsUnescaped (text.takeWhile keep) := by
  intro c member
  rcases escapeChar_eq c with own | ⟨rfl, _⟩ | ⟨rfl, _⟩ | ⟨rfl, _⟩
  · exact own
  · exact absurd member (not_mem_takeWhile stops.1 text)
  · exact absurd member (not_mem_takeWhile stops.2.1 text)
  · exact absurd member (not_mem_takeWhile stops.2.2 text)

theorem IsUnescaped.of_start {left right : List Char} (plain : IsUnescaped right)
    (start : left <+: right) : IsUnescaped left :=
  fun c member => plain c (start.subset member)

theorem IsUnescaped.append {left right : List Char} (first : IsUnescaped left)
    (second : IsUnescaped right) : IsUnescaped (left ++ right) := by
  intro c member
  rcases List.mem_append.mp member with inside | inside
  · exact first c inside
  · exact second c inside

/-- An unescaped start of an escaped text is a start of the text. -/
theorem IsUnescaped.isStart_of_escapeText {name : List Char} (plain : IsUnescaped name)
    (start : name <+: escapeText text) : name <+: text := by
  induction name generalizing text with
  | nil => exact List.nil_prefix
  | cons c others ih =>
    obtain ⟨first, further⟩ := List.forall_mem_cons.mp plain
    have other : c ≠ '&' := by
      rintro rfl
      exact absurd first (by decide)
    obtain ⟨beyond, written⟩ := start
    obtain ⟨rest, rfl, same, _⟩ := eq_cons_of_escapeText other written.symm
    exact List.cons_prefix_cons.mpr ⟨rfl, ih further ⟨beyond, same⟩⟩

theorem IsUnescaped.not_angle (plain : IsUnescaped text) : '<' ∉ text ∧ '>' ∉ text := by
  constructor
  · intro inside
    exact absurd (plain '<' inside) (by decide)
  · intro inside
    exact absurd (plain '>' inside) (by decide)

/-- After an unescaped start the rest of an escaped text is the rest escaped. -/
theorem drop_escapeText {start : List Char} (plain : IsUnescaped start) (rest : List Char) :
    (escapeText (start ++ rest)).drop start.length = escapeText rest := by
  rw [escapeText_append, escapeText_of_isUnescaped plain, List.drop_left]

theorem take_escapeText {start : List Char} (plain : IsUnescaped start) (rest : List Char) :
    (escapeText (start ++ rest)).take start.length = start := by
  rw [escapeText_append, escapeText_of_isUnescaped plain, List.take_left]

/-- A word without escaped characters starts a text exactly when it starts the escaped text. -/
theorem startsIgnoringCase_escapeText {word : List Char} (plain : IsUnescaped word)
    (text : List Char) : startsIgnoringCase word (escapeText text) = startsIgnoringCase word text := by
  induction word generalizing text with
  | nil => rfl
  | cons w others ih =>
    obtain ⟨first, further⟩ := List.forall_mem_cons.mp plain
    have rest := ih further
    have other (d : Char) (escaped : escapeChar d ≠ [d]) (small : d.toLower = d) (more : List Char) :
        startsIgnoringCase (w :: others) (d :: more) = false := by
      have differs : d ≠ w := by
        rintro rfl
        exact escaped first
      simp [startsIgnoringCase, lowerAscii, small, differs]
    cases text with
    | nil => rfl
    | cons c more =>
      have same := rest more
      rw [escapeText_cons]
      rcases escapeChar_eq c with own | ⟨rfl, written⟩ | ⟨rfl, written⟩ | ⟨rfl, written⟩
      · unfold startsIgnoringCase lowerAscii at same ⊢
        simp only [own, List.singleton_append, List.length_cons, List.take_succ_cons, List.map_cons,
          List.cons_beq_cons, same]
      · rw [written, other '&' (by decide) (by decide)]
        exact other '&' (by decide) (by decide) _
      · rw [written, other '<' (by decide) (by decide)]
        exact other '&' (by decide) (by decide) _
      · rw [written, other '>' (by decide) (by decide)]
        exact other '&' (by decide) (by decide) _

/-- The start of a text that is a word up to case is not escaped if the word is not. -/
theorem isUnescaped_take {word : List Char} (plain : IsUnescaped word) (text : List Char)
    (starts : startsIgnoringCase word text = true) : IsUnescaped (text.take word.length) := by
  intro c member
  have same := lowerAscii_take starts
  have inside : c.toLower ∈ word := same ▸ List.mem_map_of_mem member
  rcases escapeChar_eq c with own | ⟨rfl, _⟩ | ⟨rfl, _⟩ | ⟨rfl, _⟩
  · exact own
  · exact plain '&' inside
  · exact plain '<' inside
  · exact plain '>' inside

namespace Address

/-- An address goes on at a character of plain text exactly when it goes on at its escaped form. -/
theorem continues_escapeChar (c : Char) (rest rest' : List Char) :
    continues .html (escapeChar c ++ rest) = continues .plain (c :: rest') := by
  rcases escapeChar_eq c with own | ⟨rfl, written⟩ | ⟨rfl, written⟩ | ⟨rfl, written⟩
  · have notAmpersand : c ≠ '&' := by
      rintro rfl
      exact absurd own (by decide)
    simp [own, continues, notAmpersand]
  · rw [written]
    rfl
  · rw [written]
    rfl
  · rw [written]
    rfl

/-- What follows a host goes on in escaped text as far as in the text. -/
theorem run_escapeText (text : List Char) :
    run .html (escapeText text) = escapeText (run .plain text) := by
  induction text with
  | nil => rfl
  | cons c rest ih =>
    have same := continues_escapeChar c (escapeText rest) rest
    have further : run .plain (c :: rest) =
        if continues .plain (c :: rest) then c :: run .plain rest else [] := rfl
    rw [escapeText_cons, further, ← same]
    rcases escapeChar_eq c with own | ⟨rfl, written⟩ | ⟨rfl, written⟩ | ⟨rfl, written⟩
    · have start : run .html (c :: escapeText rest) =
          if continues .html (c :: escapeText rest) then c :: run .html (escapeText rest) else [] := rfl
      rw [own, List.singleton_append, start, ih]
      split
      · rw [escapeText_cons, own, List.singleton_append]
      · rfl
    · have goes : continues .html ("&amp;".toList ++ escapeText rest) = true := rfl
      have steps : run .html ("&amp;".toList ++ escapeText rest) =
          "&amp;".toList ++ run .html (escapeText rest) := rfl
      rw [written, goes, if_pos rfl, steps, escapeText_cons, written, ih]
    · have stops : continues .html ("&lt;".toList ++ escapeText rest) = false := rfl
      have nothing : run .html ("&lt;".toList ++ escapeText rest) = [] := rfl
      rw [written, stops, nothing]
      rfl
    · have stops : continues .html ("&gt;".toList ++ escapeText rest) = false := rfl
      have nothing : run .html ("&gt;".toList ++ escapeText rest) = [] := rfl
      rw [written, stops, nothing]
      rfl

theorem run_isStart (form : TextForm) (text : List Char) : run form text <+: text := by
  induction text with
  | nil => exact List.prefix_refl _
  | cons c rest ih =>
    unfold run
    split
    · exact List.cons_prefix_cons.mpr ⟨rfl, ih⟩
    · exact List.nil_prefix

def stops : List Char := ['\n', '<', '>']

/-- What ends an address is no part of it. -/
theorem not_mem_run {mark : Char} (stop : mark ∈ stops) (form : TextForm) (text : List Char) :
    mark ∉ run form text := by
  have ends (rest : List Char) : continues form (mark :: rest) = false := by
    simp only [stops, List.mem_cons, List.not_mem_nil, or_false] at stop
    rcases stop with rfl | rfl | rfl <;> rfl
  induction text with
  | nil => simp [run]
  | cons c rest ih =>
    unfold run
    split
    · rename_i goes
      refine List.not_mem_cons_of_ne_of_not_mem ?_ ih
      rintro rfl
      exact absurd goes (by simp [ends])
    · exact List.not_mem_nil

end Address

end PostMarkup
