import Mathlib.Data.List.Basic

/-! # Runs of a character

A run of a character reaches from one other character, or the start of the text, to the next one or the
end of the text. Text put in front of a text keeps the runs of the text, unless both meet in the middle
of a run.
-/

namespace PostMarkup.Text

variable {mark c : Char} {count : Nat} {text rest : List Char}

/-- Whether a character stands somewhere in a text exactly so many times in a row. -/
def HasRun (mark : Char) (count : Nat) (text : List Char) : Prop :=
  ∃ front back, text = front ++ (List.replicate count mark ++ back) ∧ mark ∉ front.getLast? ∧ mark ∉ back.head?

instance (mark : Char) (count : Nat) (text : List Char) : Decidable (HasRun mark count text) :=
  decidable_of_iff
    (∃ start ∈ List.range (text.length + 1), (text.drop start).take count = List.replicate count mark ∧
      mark ∉ (text.take start).getLast? ∧ mark ∉ (text.drop (start + count)).head?)
    (by
      constructor
      · rintro ⟨start, -, same, before, after⟩
        refine ⟨text.take start, text.drop (start + count), ?_, before, after⟩
        rw [← same, ← List.drop_drop, List.take_append_drop, List.take_append_drop]
      · rintro ⟨front, back, rfl, before, after⟩
        refine ⟨front.length, ?_, ?_, ?_, ?_⟩
        · rw [List.mem_range, List.length_append]
          omega
        · rw [List.drop_left, List.take_left' List.length_replicate]
        · rwa [List.take_left]
        · rwa [← List.drop_drop, List.drop_left, List.drop_left' List.length_replicate])

/-- A run of a character reaches to the first other character. -/
theorem takeWhile_replicate_append (mark : Char) (count : Nat) (differs : ∀ c ∈ rest.head?, c ≠ mark) :
    (List.replicate count mark ++ rest).takeWhile (· = mark) = List.replicate count mark := by
  rw [List.takeWhile_append_of_pos (by simp)]
  cases rest with
  | nil => simp
  | cons c others => simp [differs c rfl]

theorem takeWhile_eq_replicate (mark : Char) (text : List Char) :
    text.takeWhile (· = mark) = List.replicate (text.takeWhile (· = mark)).length mark := by
  refine List.eq_replicate_iff.mpr ⟨rfl, fun c member => ?_⟩
  simpa using List.all_eq_true.mp List.all_takeWhile c member

/-- A text does not end in a character if it does not with another text in front of it. -/
theorem not_mem_getLast?_of_append (lead : List Char) (last : mark ∉ (lead ++ text).getLast?) : mark ∉ text.getLast? := by
  intro ends
  apply last
  rw [Option.mem_def] at ends ⊢
  rw [List.getLast?_append, ends, Option.some_or]

/-- A text that does not end in a character is a run of it and another character with what follows. -/
theorem exists_of_getLast? (filled : text ≠ []) (last : mark ∉ text.getLast?) : ∃ c rest, c ≠ mark ∧
    text = List.replicate (text.takeWhile (· = mark)).length mark ++ c :: rest := by
  have whole := List.takeWhile_append_dropWhile (p := (· = mark)) (l := text)
  rw [takeWhile_eq_replicate] at whole
  cases after : text.dropWhile (· = mark) with
  | nil =>
    rw [after, List.append_nil] at whole
    rw [← whole, List.getLast?_replicate] at last
    have none : (text.takeWhile (· = mark)).length = 0 := by simpa using last
    rw [none] at whole
    exact absurd whole.symm filled
  | cons c rest =>
    have stops := List.head?_dropWhile_not (fun c => decide (c = mark)) text
    rw [after] at stops
    refine ⟨c, rest, by simpa using stops, ?_⟩
    rw [← after, whole]

/-- Text put in front of a text keeps its runs, unless a run would go on over the place where both meet. -/
theorem HasRun.append_left (has : HasRun mark count text) (positive : 0 < count) (lead : List Char)
    (apart : mark ∉ lead.getLast? ∨ mark ∉ text.head?) : HasRun mark count (lead ++ text) := by
  obtain ⟨front, back, rfl, before, after⟩ := has
  refine ⟨lead ++ front, back, (List.append_assoc ..).symm, ?_, after⟩
  cases front with
  | cons c others => rwa [List.getLast?_append_of_ne_nil _ (List.cons_ne_nil c others)]
  | nil =>
    rw [List.append_nil]
    refine apart.resolve_right fun other => other ?_
    obtain ⟨more, rfl⟩ := Nat.exists_eq_succ_of_ne_zero (Nat.ne_of_gt positive)
    rfl

end PostMarkup.Text
