import PostMarkup.Proofs.Reference
import PostMarkup.Proofs.Text.Numeral
import PostMarkup.Proofs.Text.Utf8

/-! # The grammar of references

Between an ampersand and a semicolon, a reference names its character by one of six words or by the numeral
of its code point, and it takes at most twelve bytes. A text is read by this grammar from left to right, and
what has been read is not read again.

Reading the references of a text follows the grammar with one exception: it also takes a numeral with a plus
sign before its digits. `dereferenced_unescape_iff` states that there is no other exception.
-/

namespace PostMarkup

open PostMarkup.Text

/-- The words of references and the characters that they name. -/
def referenceWords : List (List Char × Char) :=
  [("amp".toList, '&'), ("lt".toList, '<'), ("gt".toList, '>'), ("quot".toList, '"'), ("apos".toList, '\''),
    ("nbsp".toList, '\u00a0')]

/-- What introduces a numeral, and the base of the numeral. -/
def numeralLeads : List (List Char × Nat) := [("#".toList, 10), ("#x".toList, 16), ("#X".toList, 16)]

/-- The names of a character. -/
inductive Names : List Char → Char → Prop
  | word {name : List Char} {c : Char} : (name, c) ∈ referenceWords → Names name c
  | numeral {lead digits : List Char} {base : Nat} {c : Char} : (lead, base) ∈ numeralLeads →
      IsNumeral base c.toNat digits → Names (lead ++ digits) c

/-- The numerals of a character with a plus sign. -/
inductive SignedNames : List Char → Char → Prop
  | numeral {lead digits : List Char} {base : Nat} {c : Char} : (lead, base) ∈ numeralLeads →
      IsNumeral base c.toNat digits → SignedNames (lead ++ '+' :: digits) c

/-- Whether a text is a name between an ampersand and a semicolon, twelve bytes or shorter. -/
def Encloses (names : List Char → Char → Prop) (written : List Char) (c : Char) : Prop :=
  ∃ name, names name c ∧ written = '&' :: (name ++ [';']) ∧ (Utf8.encode written).length ≤ 12

/-- Whether a text is a reference to a character. -/
def IsReference : List Char → Char → Prop := Encloses Names

/-- Whether a text would be a reference to a character but for a plus sign in its numeral. -/
def IsSignedReference : List Char → Char → Prop := Encloses SignedNames

/-- Whether no part of a text would be a reference but for a plus sign in its numeral. -/
def IsUnsigned (text : List Char) : Prop := ∀ written c, IsSignedReference written c → ¬written <:+: text

/-- A text and what it becomes when its references, from left to right, are replaced by their characters. -/
inductive Dereferenced : List Char → List Char → Prop
  | nil : Dereferenced [] []
  | reference {written rest decoded : List Char} {c : Char} : IsReference written c → Dereferenced rest decoded →
      Dereferenced (written ++ rest) (c :: decoded)
  | char {c : Char} {rest decoded : List Char} : (∀ written d, IsReference written d → ¬written <+: c :: rest) →
      Dereferenced rest decoded → Dereferenced (c :: rest) (c :: decoded)

variable {base value taken : Nat} {c d : Char} {name digits written front rest text decoded : List Char}

theorem namedCharacter?_eq_some_iff : namedCharacter? name = some c ↔ (name, c) ∈ referenceWords := by
  constructor
  · intro read
    unfold namedCharacter? at read
    repeat' split at read
    all_goals cases read
    all_goals simp [referenceWords, *]
  · intro listed
    exact (by decide : ∀ entry ∈ referenceWords, namedCharacter? entry.1 = some entry.2) (name, c) listed

theorem scalar?_eq_some_iff : scalar? value = some c ↔ c.toNat = value := by
  unfold scalar?
  constructor
  · intro read
    obtain ⟨valid, same⟩ := Option.dite_none_right_eq_some.mp read
    cases same
    rfl
  · rintro rfl
    have valid : c.toNat.isValidChar := c.valid
    rw [dif_pos valid]
    rfl

theorem base_le_of_mem {lead : List Char} (listed : (lead, base) ∈ numeralLeads) : base ≤ 16 :=
  (by decide : ∀ entry ∈ numeralLeads, entry.2 ≤ 16) (lead, base) listed

/-- A numeral is read with and without a plus sign. -/
theorem signedNumeral?_eq_some_iff (small : base ≤ 16) : signedNumeral? base digits = some value ↔
    IsNumeral base value digits ∨ ∃ others, digits = '+' :: others ∧ IsNumeral base value others := by
  unfold signedNumeral?
  split
  · rename_i others
    have unsigned : ¬IsNumeral base value ('+' :: others) := fun numeral =>
      absurd (numeral.isSome_hexValue? small '+' List.mem_cons_self) (by decide)
    simp [numeral?_eq_some_iff small, unsigned]
  · rename_i plain
    rw [numeral?_eq_some_iff small]
    constructor
    · exact .inl
    · rintro (numeral | ⟨others, rfl, _⟩)
      · exact numeral
      · exact absurd rfl (plain others)

/-- The code point that a numeral denotes is read as its character. -/
theorem denoted_iff (small : base ≤ 16) : (signedNumeral? base digits).bind scalar? = some c ↔
    IsNumeral base c.toNat digits ∨ ∃ others, digits = '+' :: others ∧ IsNumeral base c.toNat others := by
  simp [Option.bind_eq_some_iff, signedNumeral?_eq_some_iff small, scalar?_eq_some_iff]

/-- What follows the mark of a numeral is read as a numeral, if it does not start with a mark itself. -/
theorem referenceName?_lead {lead : List Char} (listed : (lead, base) ∈ numeralLeads)
    (unmarked : ∀ c ∈ digits.head?, c ≠ 'x' ∧ c ≠ 'X') :
    referenceName? (lead ++ digits) = (signedNumeral? base digits).bind scalar? := by
  simp only [numeralLeads, List.mem_cons, Prod.mk.injEq, List.not_mem_nil, or_false] at listed
  rcases listed with ⟨rfl, rfl⟩ | ⟨rfl, rfl⟩ | ⟨rfl, rfl⟩
  · change referenceName? ('#' :: digits) = _
    unfold referenceName?
    split
    · rename_i same
      cases same
      exact absurd rfl (unmarked 'x' rfl).1
    · rename_i same
      cases same
      exact absurd rfl (unmarked 'X' rfl).2
    · rename_i same
      cases same
      rfl
    · rename_i other
      exact absurd rfl (other digits)
  · rfl
  · rfl

/-- The name of a reference is read as its character. -/
theorem referenceName?_eq_some_iff : referenceName? name = some c ↔ Names name c ∨ SignedNames name c := by
  constructor
  · intro read
    have named {digits : List Char} {base : Nat} (lead : List Char) (listed : (lead, base) ∈ numeralLeads)
        (denoted : (signedNumeral? base digits).bind scalar? = some c) :
        Names (lead ++ digits) c ∨ SignedNames (lead ++ digits) c := by
      rcases (denoted_iff (base_le_of_mem listed)).mp denoted with numeral | ⟨others, rfl, numeral⟩
      · exact .inl (.numeral listed numeral)
      · exact .inr (.numeral listed numeral)
    unfold referenceName? at read
    split at read
    · exact named "#x".toList (by decide) read
    · exact named "#X".toList (by decide) read
    · exact named "#".toList (by decide) read
    · exact .inl (.word (namedCharacter?_eq_some_iff.mp read))
  · rintro (names | names)
    · cases names with
      | word listed =>
        exact (by decide : ∀ entry ∈ referenceWords, referenceName? entry.1 = some entry.2) (name, c) listed
      | numeral listed numeral =>
        have small := base_le_of_mem listed
        rw [referenceName?_lead listed, (denoted_iff small).mpr (.inl numeral)]
        intro d first
        have digit := numeral.isSome_hexValue? small d (List.mem_of_mem_head? first)
        constructor
        all_goals
          rintro rfl
          exact absurd digit (by decide)
    · cases names with
      | numeral listed numeral =>
        rw [referenceName?_lead listed (by simp), (denoted_iff (base_le_of_mem listed)).mpr (.inr ⟨_, rfl, numeral⟩)]

/-- Whether a text stands inside a reference: its characters are ones of ASCII that neither start nor end
one. -/
def IsInner (text : List Char) : Prop := ∀ c ∈ text, c.toNat < 128 ∧ c ≠ '&' ∧ c ≠ ';'

theorem isInner_numeral (small : base ≤ 16) (numeral : IsNumeral base value digits) : IsInner digits := by
  intro c member
  have digit := numeral.isSome_hexValue? small c member
  obtain ⟨value, read⟩ := Option.isSome_iff_exists.mp digit
  refine ⟨(toNat_lt_of_hexValue? read).1, ?_, ?_⟩
  all_goals
    rintro rfl
    exact absurd digit (by decide)

theorem isInner_lead {lead : List Char} (listed : (lead, base) ∈ numeralLeads) : IsInner lead :=
  (by decide : ∀ entry ∈ numeralLeads, ∀ c ∈ entry.1, c.toNat < 128 ∧ c ≠ '&' ∧ c ≠ ';') (lead, base) listed

theorem Names.isInner (names : Names name c) : IsInner name := by
  cases names with
  | word listed =>
    exact (by decide : ∀ entry ∈ referenceWords, ∀ c ∈ entry.1, c.toNat < 128 ∧ c ≠ '&' ∧ c ≠ ';') (name, c) listed
  | numeral listed numeral =>
    exact List.forall_mem_append.mpr ⟨isInner_lead listed, isInner_numeral (base_le_of_mem listed) numeral⟩

theorem SignedNames.isInner (names : SignedNames name c) : IsInner name := by
  cases names with
  | numeral listed numeral =>
    refine List.forall_mem_append.mpr ⟨isInner_lead listed, List.forall_mem_cons.mpr ⟨by decide, ?_⟩⟩
    exact isInner_numeral (base_le_of_mem listed) numeral

/-- The sign of a numeral stands in no other name. -/
theorem Names.plus_not_mem (names : Names name c) : '+' ∉ name := by
  cases names with
  | word listed => exact (by decide : ∀ entry ∈ referenceWords, '+' ∉ entry.1) (name, c) listed
  | numeral listed numeral =>
    apply List.not_mem_append
    · exact (by decide : ∀ entry ∈ numeralLeads, '+' ∉ entry.1) (_, _) listed
    · exact fun member => absurd (numeral.isSome_hexValue? (base_le_of_mem listed) '+' member) (by decide)

theorem length_encode_enclosed (inner : IsInner name) :
    (Utf8.encode ('&' :: (name ++ [';']))).length = name.length + 2 := by
  rw [Utf8.length_encode_of_ascii]
  · simp
  · have ends : ∀ c ∈ [';'], c.toNat < 128 := by decide
    exact List.forall_mem_cons.mpr ⟨by decide, List.forall_mem_append.mpr ⟨fun c member => (inner c member).1, ends⟩⟩

theorem isInner_of_referenceName? (read : referenceName? name = some c) : IsInner name := by
  rcases referenceName?_eq_some_iff.mp read with names | names
  · exact names.isInner
  · exact names.isInner

/-- The name that is read is all that stands before the first semicolon. -/
theorem takeWhile_referenceName (inner : IsInner name) (short : name.length ≤ maxReferenceName) (after : List Char) :
    ((name ++ ';' :: after).take maxReferenceName).takeWhile (fun c => decide (c ≠ ';')) = name := by
  have solid : ∀ c ∈ name, decide (c ≠ ';') = true := fun c member => by simp [(inner c member).2.2]
  rw [List.take_append, List.take_of_length_le short, List.takeWhile_append_of_pos solid]
  cases maxReferenceName - name.length <;> simp

theorem reference?_eq_some_iff_name : reference? text = some (c, taken) ↔ ∃ name after,
    referenceName? name = some c ∧ name.length ≤ maxReferenceName ∧ text = name ++ ';' :: after ∧
      taken = name.length + 1 := by
  constructor
  · intro read
    unfold reference? at read
    simp only [Option.ite_none_right_eq_some, Option.map_eq_some_iff, Prod.mk.injEq] at read
    obtain ⟨closed, decoded, named, rfl, rfl⟩ := read
    generalize shape : (text.take maxReferenceName).takeWhile (fun c => decide (c ≠ ';')) = name at closed named
    have start := List.takeWhile_prefix (fun c => decide (c ≠ ';')) (l := text.take maxReferenceName)
    rw [shape] at start
    have short : name.length ≤ maxReferenceName := start.length_le.trans (List.length_take_le ..)
    obtain ⟨after, rfl⟩ := start.trans (List.take_prefix ..)
    rw [List.drop_left] at closed
    obtain ⟨others, rfl⟩ := List.head?_eq_some_iff.mp closed
    exact ⟨name, others, named, short, rfl, rfl⟩
  · rintro ⟨name, after, named, short, rfl, rfl⟩
    unfold reference?
    simp only [takeWhile_referenceName (isInner_of_referenceName? named) short, List.drop_left, List.head?_cons,
      if_true, named, Option.map_some]

/-- Whether a text is read as a reference, which one with a plus sign is too. -/
def IsTaken (written : List Char) (c : Char) : Prop := IsReference written c ∨ IsSignedReference written c

theorem isTaken_iff : IsTaken written c ↔ ∃ name, referenceName? name = some c ∧ written = '&' :: (name ++ [';']) ∧
    (Utf8.encode written).length ≤ 12 := by
  simp only [IsTaken, IsReference, IsSignedReference, Encloses, referenceName?_eq_some_iff, or_and_right, exists_or]

theorem reference?_eq_some_iff : reference? text = some (c, taken) ↔
    ∃ written, IsTaken written c ∧ written <+: '&' :: text ∧ written.length = taken + 1 := by
  have short {name : List Char} (inner : IsInner name) :
      (Utf8.encode ('&' :: (name ++ [';']))).length ≤ 12 ↔ name.length ≤ maxReferenceName := by
    rw [length_encode_enclosed inner, maxReferenceName]
    omega
  rw [reference?_eq_some_iff_name]
  constructor
  · rintro ⟨name, after, named, bound, rfl, rfl⟩
    have bytes := (short (isInner_of_referenceName? named)).mpr bound
    exact ⟨'&' :: (name ++ [';']), isTaken_iff.mpr ⟨name, named, rfl, bytes⟩, ⟨after, by simp⟩, by simp⟩
  · rintro ⟨written, isTaken, ⟨after, whole⟩, length⟩
    obtain ⟨name, named, rfl, bytes⟩ := isTaken_iff.mp isTaken
    have bound := (short (isInner_of_referenceName? named)).mp bytes
    obtain ⟨_, rfl⟩ := List.cons.inj whole
    exact ⟨name, after, named, bound, by simp, by simpa using length.symm⟩

/-- No reference has a plus sign. -/
theorem IsReference.not_signed (reference : IsReference written c) : ¬IsSignedReference written d := by
  rintro ⟨signed, ⟨_, _⟩, same, _⟩
  obtain ⟨name, names, rfl, _⟩ := reference
  have equal := List.append_cancel_right (List.cons.inj same).2
  exact names.plus_not_mem (equal ▸ by simp)

namespace IsTaken

theorem exists_body (isTaken : IsTaken written c) : ∃ body, written = '&' :: body ∧ body ≠ [] ∧ '&' ∉ body := by
  obtain ⟨name, named, rfl, -⟩ := isTaken_iff.mp isTaken
  refine ⟨name ++ [';'], rfl, by simp, List.not_mem_append ?_ (by decide)⟩
  intro member
  exact (isInner_of_referenceName? named '&' member).2.1 rfl

theorem reference?_eq (isTaken : IsTaken ('&' :: front) c) (rest : List Char) :
    reference? (front ++ rest) = some (c, front.length) :=
  reference?_eq_some_iff.mpr ⟨'&' :: front, isTaken, ⟨rest, rfl⟩, rfl⟩

/-- At most one reference starts a text, and it denotes one character. -/
theorem unique {written' rest' : List Char} (first : IsTaken written c) (second : IsTaken written' d)
    (same : written ++ rest = written' ++ rest') : written = written' ∧ c = d := by
  obtain ⟨body, rfl, -, -⟩ := first.exists_body
  obtain ⟨body', rfl, -, -⟩ := second.exists_body
  have inner : body ++ rest = body' ++ rest' := (List.cons.inj same).2
  have read := first.reference?_eq rest
  rw [inner, second.reference?_eq rest'] at read
  obtain ⟨rfl, length⟩ := Prod.mk.inj (Option.some.inj read)
  exact ⟨congrArg _ (List.append_inj_left inner length.symm), rfl⟩

end IsTaken

theorem unescape_append_of_not_mem (clean : '&' ∉ front) (rest : List Char) :
    unescape (front ++ rest) = front ++ unescape rest := by
  induction front with
  | nil => rfl
  | cons c others ih =>
    simp only [List.mem_cons, not_or] at clean
    rw [List.cons_append, unescape_of_ne (Ne.symm clean.1), ih clean.2, List.cons_append]

theorem unescape_of_isTaken (isTaken : IsTaken written c) (rest : List Char) :
    unescape (written ++ rest) = c :: unescape rest := by
  obtain ⟨body, rfl, -, -⟩ := isTaken.exists_body
  exact unescape_reference (isTaken.reference?_eq rest)

theorem unescape_of_untaken (untaken : ∀ written d, IsTaken written d → ¬written <+: c :: rest) :
    unescape (c :: rest) = c :: unescape rest := by
  by_cases ampersand : c = '&'
  · subst ampersand
    have unread : reference? rest = none := by
      refine Option.eq_none_iff_forall_ne_some.mpr fun found read => ?_
      obtain ⟨written, isTaken, start, _⟩ := reference?_eq_some_iff.mp read
      exact untaken written _ isTaken start
    rw [unescape, if_pos rfl, unread]
  · exact unescape_of_ne ampersand rest

/-- A text is read character by character and reference by reference. -/
theorem unescape_induction {motive : List Char → Prop} (nil : motive [])
    (reference : ∀ {written c rest}, IsTaken written c → motive rest → motive (written ++ rest))
    (char : ∀ {c rest}, (∀ written d, IsTaken written d → ¬written <+: c :: rest) → motive rest → motive (c :: rest))
    (text : List Char) : motive text := by
  induction length : text.length using Nat.strong_induction_on generalizing text with
  | _ count ih =>
    subst length
    cases text with
    | nil => exact nil
    | cons c rest =>
      by_cases starts : ∃ written d, IsTaken written d ∧ written <+: c :: rest
      · obtain ⟨written, d, isTaken, after, whole⟩ := starts
        obtain ⟨body, rfl, -, -⟩ := isTaken.exists_body
        rw [← whole]
        refine reference isTaken (ih _ ?_ after rfl)
        rw [← whole, List.length_append, List.length_cons]
        omega
      · push Not at starts
        exact char starts (ih _ (Nat.lt_succ_self _) rest rfl)

/-- A signed reference in a text that begins with a reference stands behind it. -/
theorem IsSignedReference.infix_of_reference (signed : IsSignedReference written c) {first : List Char}
    (reference : IsReference first d) (inside : written <:+: first ++ rest) : written <:+: rest := by
  obtain ⟨body, rfl, -, clean⟩ := IsTaken.exists_body (.inl reference)
  rw [List.cons_append, List.infix_cons_iff] at inside
  rcases inside with ⟨after, same⟩ | inside
  · obtain ⟨rfl, -⟩ := IsTaken.unique (.inr signed) (.inl reference) same
    exact absurd signed reference.not_signed
  · obtain ⟨other, rfl, -, -⟩ := IsTaken.exists_body (.inr signed)
    clear reference signed
    induction body with
    | nil => exact inside
    | cons e more ih =>
      simp only [List.mem_cons, not_or] at clean
      rw [List.cons_append, List.infix_cons_iff] at inside
      rcases inside with start | inside
      · exact absurd (List.cons_prefix_cons.mp start).1 clean.1
      · exact ih clean.2 inside

namespace IsUnsigned

theorem of_suffix (unsigned : IsUnsigned text) (suffix : rest <:+ text) : IsUnsigned rest :=
  fun written c signed inside => unsigned written c signed (inside.trans suffix.isInfix)

/-- Without signed references nothing is read where no reference starts. -/
theorem untaken (unsigned : IsUnsigned text) (none : ∀ written c, IsReference written c → ¬written <+: text) :
    ∀ written c, IsTaken written c → ¬written <+: text := by
  rintro written c (own | signed) start
  · exact none written c own start
  · exact unsigned written c signed start.isInfix

end IsUnsigned

namespace Dereferenced

/-- The grammar reads a text without signed references as it is read. -/
theorem iff_of_unsigned (unsigned : IsUnsigned text) : Dereferenced text decoded ↔ decoded = unescape text := by
  constructor
  · intro read
    induction read with
    | nil => simp [unescape]
    | reference own _ ih => rw [unescape_of_isTaken (.inl own), ih (unsigned.of_suffix (List.suffix_append ..))]
    | char none _ ih =>
      rw [unescape_of_untaken (unsigned.untaken none), ih (unsigned.of_suffix (List.suffix_cons ..))]
  · rintro rfl
    induction text using unescape_induction with
    | nil =>
      rw [unescape]
      exact .nil
    | @reference written c rest isTaken ih =>
      have own : IsReference written c := isTaken.resolve_right fun signed => unsigned written c signed ⟨[], rest, rfl⟩
      rw [unescape_of_isTaken isTaken]
      exact .reference own (ih (unsigned.of_suffix (List.suffix_append ..)))
    | char untaken ih =>
      rw [unescape_of_untaken untaken]
      apply Dereferenced.char fun written d reference => untaken written d (.inl reference)
      exact ih (unsigned.of_suffix (List.suffix_cons ..))

/-- Reading leaves no more characters than the grammar does. -/
theorem length_unescape_le (read : Dereferenced text decoded) : (unescape text).length ≤ decoded.length := by
  induction read with
  | nil => simp [unescape]
  | reference own _ ih =>
    rw [unescape_of_isTaken (.inl own)]
    exact Nat.succ_le_succ ih
  | @char c rest decoded _ _ ih =>
    by_cases starts : ∃ written d, IsTaken written d ∧ written <+: c :: rest
    · obtain ⟨written, d, isTaken, after, whole⟩ := starts
      obtain ⟨body, rfl, -, clean⟩ := isTaken.exists_body
      obtain ⟨rfl, rfl⟩ : '&' = c ∧ body ++ after = rest := List.cons.inj whole
      rw [unescape_append_of_not_mem clean, List.length_append] at ih
      rw [← List.cons_append, unescape_of_isTaken isTaken, List.length_cons, List.length_cons]
      omega
    · push Not at starts
      rw [unescape_of_untaken starts]
      exact Nat.succ_le_succ ih

/-- What is read by the grammar holds no signed reference. -/
theorem isUnsigned (read : Dereferenced text (unescape text)) : IsUnsigned text := by
  generalize same : unescape text = decoded at read
  induction read with
  | nil =>
    intro written c signed inside
    obtain ⟨body, rfl, -, -⟩ := IsTaken.exists_body (.inr signed)
    exact absurd (List.infix_nil.mp inside) (List.cons_ne_nil _ _)
  | reference own _ ih =>
    rw [unescape_of_isTaken (.inl own)] at same
    intro written c signed inside
    exact ih (List.cons.inj same).2 written c signed (signed.infix_of_reference own inside)
  | @char c rest decoded none read ih =>
    have untaken : ∀ written d, IsTaken written d → ¬written <+: c :: rest := by
      rintro written d isTaken ⟨after, whole⟩
      obtain ⟨body, rfl, filled, clean⟩ := isTaken.exists_body
      obtain ⟨rfl, rfl⟩ : '&' = c ∧ body ++ after = rest := List.cons.inj whole
      rw [← List.cons_append, unescape_of_isTaken isTaken] at same
      -- the grammar keeps the characters of the reference
      have longer := read.length_unescape_le
      rw [unescape_append_of_not_mem clean, ← (List.cons.inj same).2, List.length_append] at longer
      exact filled (List.length_eq_zero_iff.mp (by omega))
    rw [unescape_of_untaken untaken] at same
    intro written d signed inside
    rcases List.infix_cons_iff.mp inside with start | inside
    · exact untaken written d (.inr signed) start
    · exact ih (List.cons.inj same).2 written d signed inside

end Dereferenced

/-- Reading the references of a text replaces exactly those of the grammar, from left to right and each once,
if and only if no numeral in the text has a plus sign with which it would be a reference. -/
theorem dereferenced_unescape_iff (text : List Char) :
    (∀ decoded, Dereferenced text decoded ↔ decoded = unescape text) ↔ IsUnsigned text := by
  constructor
  · intro agree
    exact Dereferenced.isUnsigned ((agree (unescape text)).mpr rfl)
  · intro unsigned decoded
    exact Dereferenced.iff_of_unsigned unsigned

/-- A plus sign before the digits of a numeral is passed over, although no reference has one. -/
theorem not_dereferenced_plus : unescape "&#+65;".toList = "A".toList ∧
    ¬Dereferenced "&#+65;".toList (unescape "&#+65;".toList) := by
  have digits : List.Forall₂ (IsDigit 10) [6, 5] "65".toList :=
    .cons ⟨by decide, by decide⟩ (.cons ⟨by decide, by decide⟩ .nil)
  have numeral : IsNumeral 10 'A'.toNat "65".toList := ⟨by decide, [6, 5], digits, by decide⟩
  have decimal : ("#".toList, 10) ∈ numeralLeads := by decide
  have signed : IsSignedReference "&#+65;".toList 'A' := ⟨"#+65".toList, .numeral decimal numeral, rfl, by decide⟩
  constructor
  · have read := unescape_of_isTaken (.inr signed) []
    rw [List.append_nil, unescape] at read
    exact read
  · exact fun read => read.isUnsigned _ _ signed (List.infix_refl _)

end PostMarkup
