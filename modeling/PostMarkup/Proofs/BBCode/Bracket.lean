import PostMarkup.BBCode.Bracket
import PostMarkup.Proofs.Text.Lines

/-! # Bracket tags that read back

A bracket tag stands at the start of the text that it is read from, holds no `<`, and reads back from
its own characters.
-/

namespace PostMarkup.BBCode

open PostMarkup.Text

namespace Bracket

variable {text lead : List Char} {closing : Bool} {bracket : Bracket}

theorem readName?_source (clean : '<' ∉ lead) (found : readName? lead closing text = some bracket) :
    ∃ rest, lead ++ text = bracket.source ++ rest ∧ '<' ∉ bracket.source ∧ bracket.source ≠ [] := by
  have word : '<' ∉ text.takeWhile Char.isAlphanum := by
    intro member
    have alphanumeric := List.all_eq_true.mp List.all_takeWhile _ member
    exact absurd alphanumeric (by decide)
  have whole := List.takeWhile_append_dropWhile (p := Char.isAlphanum) (l := text)
  simp only [readName?, drop_takeWhile] at found
  split at found
  · simp at found
  · split at found
    · rename_i rest after
      cases found
      refine ⟨rest, ?_, by simp [clean, word], by simp⟩
      conv => lhs; rw [← whole, after]
      simp
    · rename_i rest after
      split at found
      · rename_i ends
        have value : '<' ∉ rest.takeWhile isParameterChar := by
          intro member
          have accepted := List.all_eq_true.mp List.all_takeWhile _ member
          exact absurd accepted (by decide)
        have given := List.takeWhile_append_dropWhile (p := isParameterChar) (l := rest)
        simp only [Bool.and_eq_true, decide_eq_true_eq] at ends
        obtain ⟨beyond, last⟩ := List.head?_eq_some_iff.mp ends.2
        cases found
        refine ⟨beyond, ?_, by simp [clean, word, value], by simp⟩
        conv => lhs; rw [← whole, after, ← given, last]
        simp
      · simp at found
    · simp at found

/-- A bracket tag stands at the start of the text and holds no `<`. -/
theorem read?_source (found : read? text = some bracket) :
    ∃ rest, text = bracket.source ++ rest ∧ '<' ∉ bracket.source ∧ bracket.source ≠ [] := by
  unfold read? at found
  split at found
  · exact readName?_source (by decide) found
  · exact readName?_source (by decide) found
  · simp at found

/-- A bracket tag reads the same on its own. -/
theorem readName?_inner (found : readName? lead closing text = some bracket) :
    ∃ inner, bracket.source = lead ++ inner ∧ inner.head? = text.head? ∧
      readName? lead closing inner = some bracket := by
  obtain ⟨name, named⟩ : ∃ name, name = text.takeWhile Char.isAlphanum := ⟨_, rfl⟩
  have word : ∀ c ∈ name, c.isAlphanum = true := by
    rw [named]
    exact List.all_eq_true.mp List.all_takeWhile
  have taken (c : Char) (rest : List Char) (other : c.isAlphanum = false) :
      (name ++ c :: rest).takeWhile Char.isAlphanum = name := by
    rw [List.takeWhile_append_of_pos word]
    simp [other]
  have head (rest : List Char) (nonempty : name ≠ []) : (name ++ rest).head? = text.head? := by
    obtain ⟨first, others, shape⟩ := List.exists_cons_of_ne_nil nonempty
    rw [← List.takeWhile_append_dropWhile (p := Char.isAlphanum) (l := text), ← named, shape]
    rfl
  simp only [readName?, ← named] at found
  split at found
  · cases found
  · rename_i nonempty
    have nonempty : name ≠ [] := by simpa using nonempty
    split at found
    · cases found
      refine ⟨name ++ [']'], by simp, head _ nonempty, ?_⟩
      simp only [readName?, taken ']' [] (by decide), List.drop_left]
      simp [nonempty]
    · rename_i rest _
      obtain ⟨value, given⟩ : ∃ value, value = rest.takeWhile isParameterChar := ⟨_, rfl⟩
      have accepted : ∀ c ∈ value, isParameterChar c = true := by
        rw [given]
        exact List.all_eq_true.mp List.all_takeWhile
      have taken' : (value ++ [']']).takeWhile isParameterChar = value := by
        rw [List.takeWhile_append_of_pos accepted]
        simp [isParameterChar]
      simp only [← given] at found
      split at found
      · rename_i ends
        simp only [Bool.and_eq_true, Bool.not_eq_true'] at ends
        cases found
        refine ⟨name ++ '=' :: (value ++ [']']), by simp, head _ nonempty, ?_⟩
        simp only [readName?, taken '=' _ (by decide), List.drop_left, taken']
        simp [nonempty, ends.1]
      · cases found
    · cases found

/-- Whether a bracket tag reads back from its own characters. -/
def IsWritten (bracket : Bracket) : Prop := read? bracket.source = some bracket

theorem isWritten_of_read? (found : read? text = some bracket) : bracket.IsWritten := by
  unfold read? at found
  unfold IsWritten
  split at found
  · obtain ⟨inner, source, _, again⟩ := readName?_inner found
    rw [source]
    exact again
  · rename_i rest notSlash
    obtain ⟨inner, source, head, again⟩ := readName?_inner found
    rw [source]
    show read? ('[' :: inner) = _
    unfold read?
    split
    · rename_i tail shape
      obtain ⟨_, rfl⟩ := List.cons.inj shape
      cases rest with
      | nil => simp at head
      | cons c more =>
        simp only [List.head?_cons, Option.some.injEq] at head
        exact (notSlash more (by rw [head])).elim
    · rename_i shape
      obtain ⟨_, rfl⟩ := List.cons.inj shape
      exact again
    · rename_i shape
      exact (shape _ rfl).elim
  · cases found

theorem readName?_closing (found : readName? lead closing text = some bracket) :
    bracket.closing = closing ∧ (closing = true → bracket.parameter = none ∧
      lowerAscii bracket.source = lowerAscii lead ++ bracket.name ++ [']']) := by
  simp only [readName?] at found
  split at found
  · cases found
  · split at found
    · cases found
      exact ⟨rfl, fun _ => ⟨rfl, by simp [lowerAscii]⟩⟩
    · split at found
      · rename_i ends
        simp only [Bool.and_eq_true, Bool.not_eq_true'] at ends
        cases found
        exact ⟨ends.1.symm, fun closing => absurd closing (by simp [ends.1])⟩
      · cases found
    · cases found

/-- A closing bracket has no parameter. It consists of its name, a slash and the brackets around, but for
capitals. -/
theorem IsWritten.of_closing (written : bracket.IsWritten) (closing : bracket.closing = true) :
    bracket.parameter = none ∧ lowerAscii bracket.source = "[/".toList ++ bracket.name ++ [']'] := by
  unfold IsWritten read? at written
  split at written
  · exact (readName?_closing written).2 rfl
  · have opening := (readName?_closing written).1
    exact absurd closing (by simp [opening])
  · cases written

theorem readName?_mem {c : Char} (found : readName? lead closing text = some bracket)
    (member : c ∈ bracket.source) : c ∈ lead ∨ c.isAlphanum = true ∨ c ∈ "=]".toList ∨
      ∃ value, bracket.parameter = some value ∧ c ∈ value := by
  have word : ∀ c ∈ text.takeWhile Char.isAlphanum, c.isAlphanum = true :=
    List.all_eq_true.mp List.all_takeWhile
  simp only [readName?] at found
  split at found
  · cases found
  · split at found
    · cases found
      simp only [List.mem_append, List.mem_singleton] at member
      rcases member with (inLead | inName) | rfl
      · exact .inl inLead
      · exact .inr (.inl (word c inName))
      · exact .inr (.inr (.inl (by decide)))
    · split at found
      · cases found
        simp only [List.mem_append, List.mem_cons, List.not_mem_nil, or_false] at member
        rcases member with ((inLead | inName) | rfl | inValue) | rfl
        · exact .inl inLead
        · exact .inr (.inl (word c inName))
        · exact .inr (.inr (.inl (by decide)))
        · exact .inr (.inr (.inr ⟨_, rfl, inValue⟩))
        · exact .inr (.inr (.inl (by decide)))
      · cases found
    · cases found

/-- A bracket tag consists of letters and digits, its parameter, and the marks around them. -/
theorem IsWritten.mem_source {c : Char} (written : bracket.IsWritten) (member : c ∈ bracket.source) :
    c.isAlphanum = true ∨ c ∈ "[/=]".toList ∨ ∃ value, bracket.parameter = some value ∧ c ∈ value := by
  have lead : ∀ c ∈ ['[', '/'], c ∈ "[/=]".toList := by decide
  have ends : ∀ c ∈ "=]".toList, c ∈ "[/=]".toList := by decide
  unfold IsWritten read? at written
  split at written
  · rcases readName?_mem written member with start | word | ending | value
    · exact .inr (.inl (lead c start))
    · exact .inl word
    · exact .inr (.inl (ends c ending))
    · exact .inr (.inr value)
  · rcases readName?_mem written member with start | word | ending | value
    · exact .inr (.inl (lead c (List.mem_cons.mpr (.inl (List.mem_singleton.mp start)))))
    · exact .inl word
    · exact .inr (.inl (ends c ending))
    · exact .inr (.inr value)
  · cases written

/-- A bracket tag starts with its opening bracket. -/
theorem IsWritten.head? (written : bracket.IsWritten) : bracket.source.head? = some '[' := by
  unfold IsWritten read? at written
  split at written
  · rename_i source
    rw [source]
    rfl
  · rename_i source
    rw [source]
    rfl
  · cases written

/-- A bracket tag is dropped as a whole from the text that it starts. -/
theorem drop_source {c : Char} {rest : List Char}
    (found : read? (c :: rest) = some bracket) :
    c :: rest = bracket.source ++ rest.drop (bracket.source.length - 1) ∧ '<' ∉ bracket.source := by
  obtain ⟨after, whole, clean, nonempty⟩ := read?_source found
  obtain ⟨first, others, source⟩ := List.exists_cons_of_ne_nil nonempty
  refine ⟨?_, clean⟩
  rw [source] at whole ⊢
  obtain ⟨rfl, rfl⟩ := List.cons.inj whole
  simp

end Bracket

end PostMarkup.BBCode
