import PostMarkup.Reference.Reader
import PostMarkup.Reference.Writer

/-! # Escaped texts

Escaping writes an ampersand only at the start of one of four references, and reading the
references of an escaped text gives the text back.
-/

namespace PostMarkup

/-- What holds of the characters of a text is decided along the text, never over all characters. -/
instance (priority := 2000) decidableForallMem (p : Char → Prop) [DecidablePred p] (text : List Char) :
    Decidable (∀ c ∈ text, p c) :=
  List.decidableBAll p text

/-- The references that escaping writes, each without its ampersand. -/
def writtenReferences : List (List Char) := ["amp;", "lt;", "gt;", "quot;"].map String.toList

/-- Whether every ampersand of a text starts a reference that escaping writes. -/
def ReferencesOnly (text : List Char) : Prop :=
  ∀ before after, text = before ++ '&' :: after → ∃ name ∈ writtenReferences, name <+: after

namespace ReferencesOnly

variable {left right text : List Char}

theorem of_not_mem (clean : '&' ∉ text) : ReferencesOnly text := by
  rintro before after rfl
  exact absurd (by simp) clean

theorem append (first : ReferencesOnly left) (second : ReferencesOnly right) :
    ReferencesOnly (left ++ right) := by
  intro before after same
  rcases List.append_eq_append_iff.mp same with ⟨between, rfl, rest⟩ | ⟨between, rfl, rest⟩
  · exact second between after rest
  · cases between with
    | nil => exact second [] after (by simpa using rest.symm)
    | cons c others =>
      simp only [List.cons_append, List.cons.injEq] at rest
      obtain ⟨rfl, rfl⟩ := rest
      obtain ⟨name, listed, start⟩ := first before others (by simp)
      exact ⟨name, listed, start.trans (List.prefix_append ..)⟩

theorem reference {name : List Char} (listed : name ∈ writtenReferences) :
    ReferencesOnly ('&' :: name) := by
  intro before after same
  have clean : ∀ other ∈ writtenReferences, '&' ∉ other := by decide
  cases before with
  | nil =>
    simp only [List.nil_append, List.cons.injEq, true_and] at same
    exact ⟨name, listed, same ▸ List.prefix_refl _⟩
  | cons c others =>
    simp only [List.cons_append, List.cons.injEq] at same
    exact absurd (by simp [same.2]) (clean name listed)

theorem escapeChar (c : Char) : ReferencesOnly (escapeChar c) := by
  unfold PostMarkup.escapeChar
  split
  · exact reference (by decide)
  · exact reference (by decide)
  · exact reference (by decide)
  · rename_i other _ _
    exact of_not_mem (by simpa using Ne.symm other)

theorem escapeAttributeChar (c : Char) : ReferencesOnly (escapeAttributeChar c) := by
  unfold PostMarkup.escapeAttributeChar
  split
  · exact reference (by decide)
  · exact escapeChar c

theorem flatMap {write : Char → List Char} (each : ∀ c, ReferencesOnly (write c))
    (text : List Char) : ReferencesOnly (text.flatMap write) := by
  induction text with
  | nil => exact of_not_mem (by simp)
  | cons c rest ih => exact (each c).append ih

theorem escapeText (text : List Char) : ReferencesOnly (escapeText text) := flatMap escapeChar text

theorem escapeAttribute (text : List Char) : ReferencesOnly (escapeAttribute text) :=
  flatMap escapeAttributeChar text

end ReferencesOnly

def referenceChars : List Char := "&;ampltgquo".toList

/-- A character of an escaped text that occurs in no reference comes from the text. -/
theorem eq_of_mem_escapeAttributeChar {c d : Char} (member : d ∈ escapeAttributeChar c)
    (other : d ∉ referenceChars) : d = c := by
  unfold escapeAttributeChar escapeChar at member
  have quot : ∀ e ∈ "&quot;".toList, e ∈ referenceChars := by decide
  have amp : ∀ e ∈ "&amp;".toList, e ∈ referenceChars := by decide
  have less : ∀ e ∈ "&lt;".toList, e ∈ referenceChars := by decide
  have greater : ∀ e ∈ "&gt;".toList, e ∈ referenceChars := by decide
  split at member
  · exact absurd (quot d member) other
  · split at member
    · exact absurd (amp d member) other
    · exact absurd (less d member) other
    · exact absurd (greater d member) other
    · simpa using member

theorem mem_escapeAttributeChar_of_mem_escapeChar {c d : Char} (member : d ∈ escapeChar c)
    (other : d ≠ '"') : d ∈ escapeAttributeChar c := by
  unfold escapeAttributeChar
  split
  · simp_all [escapeChar]
  · exact member

theorem mem_of_mem_escapeAttribute {text : List Char} {d : Char} (member : d ∈ escapeAttribute text)
    (other : d ∉ referenceChars) : d ∈ text := by
  obtain ⟨c, inside, written⟩ := List.mem_flatMap.mp member
  rw [eq_of_mem_escapeAttributeChar written other]
  exact inside

theorem mem_of_mem_escapeText {text : List Char} {d : Char} (member : d ∈ escapeText text)
    (other : d ∉ referenceChars) (unquoted : d ≠ '"') : d ∈ text := by
  obtain ⟨c, inside, written⟩ := List.mem_flatMap.mp member
  rw [eq_of_mem_escapeAttributeChar
    (mem_escapeAttributeChar_of_mem_escapeChar written unquoted) other]
  exact inside

/-- An escaped value holds neither a double quote nor an angle bracket. -/
theorem not_mem_escapeAttribute (text : List Char) :
    '"' ∉ escapeAttribute text ∧ '<' ∉ escapeAttribute text ∧ '>' ∉ escapeAttribute text := by
  induction text with
  | nil => simp
  | cons c rest ih =>
    have clean : '"' ∉ escapeAttributeChar c ∧ '<' ∉ escapeAttributeChar c ∧
        '>' ∉ escapeAttributeChar c := by
      unfold escapeAttributeChar escapeChar
      split
      · decide
      · split
        · decide
        · decide
        · decide
        · simp_all [eq_comm]
    simp [clean, ih]

/-- A text without special characters is written as itself. -/
theorem escapeAttribute_of_plain {text : List Char} (plain : ∀ c ∈ text, c ∉ "&<>\"".toList) :
    escapeAttribute text = text := by
  induction text with
  | nil => rfl
  | cons c rest ih =>
    obtain ⟨first, others⟩ := List.forall_mem_cons.mp plain
    have own : escapeAttributeChar c = [c] := by
      have special : c ≠ '&' ∧ c ≠ '<' ∧ c ≠ '>' ∧ c ≠ '"' := by simpa using first
      unfold escapeAttributeChar
      split
      · exact absurd rfl special.2.2.2
      · exact escapeChar_of_ne special.1 special.2.1 special.2.2.1
    rw [escapeAttribute_cons, own, ih others]
    rfl

theorem unescape_of_ne {c : Char} (other : c ≠ '&') (rest : List Char) :
    unescape (c :: rest) = c :: unescape rest := by
  rw [unescape, if_neg other]

theorem unescape_reference {name rest : List Char} {c : Char}
    (read : reference? (name ++ rest) = some (c, name.length)) :
    unescape ('&' :: (name ++ rest)) = c :: unescape rest := by
  rw [unescape, if_pos rfl, read]
  simp

theorem unescape_escapeChar (c : Char) (rest : List Char) :
    unescape (escapeChar c ++ rest) = c :: unescape rest := by
  unfold escapeChar
  split
  · exact unescape_reference (show reference? ("amp;".toList ++ rest) = _ from rfl)
  · exact unescape_reference (show reference? ("lt;".toList ++ rest) = _ from rfl)
  · exact unescape_reference (show reference? ("gt;".toList ++ rest) = _ from rfl)
  · rename_i other _ _
    exact unescape_of_ne other rest

theorem unescape_escapeAttributeChar (c : Char) (rest : List Char) :
    unescape (escapeAttributeChar c ++ rest) = c :: unescape rest := by
  unfold escapeAttributeChar
  split
  · exact unescape_reference (show reference? ("quot;".toList ++ rest) = _ from rfl)
  · exact unescape_escapeChar c rest

theorem unescape_escapeText_append (text rest : List Char) :
    unescape (escapeText text ++ rest) = text ++ unescape rest := by
  induction text with
  | nil => rfl
  | cons c others ih =>
    rw [escapeText_cons, List.append_assoc, unescape_escapeChar, ih, List.cons_append]

/-- Reading the references of an escaped text gives the text back. -/
theorem unescape_escapeText (text : List Char) : unescape (escapeText text) = text := by
  have whole := unescape_escapeText_append text []
  simpa [unescape] using whole

/-- Reading the references of an escaped value gives the value back. -/
theorem unescape_escapeAttribute (text : List Char) : unescape (escapeAttribute text) = text := by
  induction text with
  | nil => simp [unescape]
  | cons c rest ih => rw [escapeAttribute_cons, unescape_escapeAttributeChar, ih]

/-- Whether no ampersand of a text starts a reference by a numeral. -/
def NoNumerals (text : List Char) : Prop :=
  ∀ before after, text = before ++ '&' :: after → after.head? ≠ some '#'

namespace NoNumerals

variable {left right text : List Char} {c : Char}

theorem of_referencesOnly (proper : ReferencesOnly text) : NoNumerals text := by
  intro before after same
  obtain ⟨name, listed, start⟩ := proper before after same
  have named : ∀ name ∈ writtenReferences, name ≠ [] ∧ name.head? ≠ some '#' := by decide
  obtain ⟨nonempty, other⟩ := named name listed
  obtain ⟨rest, rfl⟩ := start
  obtain ⟨c, others, rfl⟩ := List.exists_cons_of_ne_nil nonempty
  exact other

theorem of_append (left right : List Char) (whole : NoNumerals (left ++ right)) :
    NoNumerals left ∧ NoNumerals right := by
  constructor
  · intro before after same head
    apply whole before (after ++ right)
    · rw [same, List.append_assoc]
      rfl
    · rw [List.head?_append, head]
      rfl
  · intro before after same
    apply whole (left ++ before) after
    rw [same, List.append_assoc]

theorem cons (rest : NoNumerals text) (next : c = '&' → text.head? ≠ some '#') :
    NoNumerals (c :: text) := by
  intro before after same
  cases before with
  | nil =>
    obtain ⟨own, rfl⟩ := List.cons.inj same
    exact next own
  | cons d others =>
    obtain ⟨_, inside⟩ := List.cons.inj same
    exact rest others after inside

theorem append (first : NoNumerals left) (last : left.getLast? ≠ some '&')
    (second : NoNumerals right) : NoNumerals (left ++ right) := by
  induction left with
  | nil => exact second
  | cons c rest ih =>
    have others : NoNumerals rest := (of_append [c] rest first).2
    cases rest with
    | nil =>
      apply second.cons
      rintro rfl
      exact absurd rfl last
    | cons d more =>
      apply (ih others (by simpa using last)).cons
      intro own
      exact first [] (d :: more) (by rw [own]; rfl)

end NoNumerals

/-- The word of a reference names no line feed. -/
theorem reference?_ne_newline {text : List Char} {c : Char} {taken : Nat}
    (other : text.head? ≠ some '#') (read : reference? text = some (c, taken)) : c ≠ '\n' := by
  unfold reference? at read
  simp only [Option.ite_none_right_eq_some, Option.map_eq_some_iff] at read
  obtain ⟨_, decoded, named, same⟩ := read
  cases same
  generalize shape : (text.take maxReferenceName).takeWhile (fun c => c ≠ ';') = name at named
  have other' : name.head? ≠ some '#' := by
    subst shape
    cases text with
    | nil => simp
    | cons d rest =>
      rw [maxReferenceName, List.take_succ_cons, List.takeWhile_cons]
      split
      · exact other
      · simp
  unfold referenceName? at named
  split at named
  · exact absurd rfl other'
  · exact absurd rfl other'
  · exact absurd rfl other'
  · unfold namedCharacter? at named
    repeat' split at named
    all_goals
      rintro rfl
      exact absurd named (by decide)

/-- Reading the references of a text on one line gives a text on one line, where numerals do not
count. -/
theorem newline_not_mem_unescape {text : List Char} (plain : NoNumerals text) (line : '\n' ∉ text) :
    '\n' ∉ unescape text := by
  fun_induction unescape text with
  | case1 => simp
  | case2 rest decoded taken read ih =>
    have later : NoNumerals (rest.drop taken) := by
      have whole : NoNumerals ('&' :: rest.take taken ++ rest.drop taken) := by
        rwa [List.cons_append, List.take_append_drop]
      exact (NoNumerals.of_append _ _ whole).2
    have differs := reference?_ne_newline (plain [] rest rfl) read
    have line' : '\n' ∉ rest.drop taken := fun member =>
      line (List.mem_cons_of_mem _ (List.mem_of_mem_drop member))
    simp only [List.mem_cons, not_or]
    exact ⟨Ne.symm differs, ih later line'⟩
  | case3 rest _ ih =>
    have later : NoNumerals rest := (NoNumerals.of_append ['&'] rest plain).2
    simp only [List.mem_cons, not_or] at line ⊢
    exact ⟨line.1, ih later line.2⟩
  | case4 c rest _ ih =>
    have later : NoNumerals rest := (NoNumerals.of_append [c] rest plain).2
    simp only [List.mem_cons, not_or] at line ⊢
    exact ⟨line.1, ih later line.2⟩

end PostMarkup
