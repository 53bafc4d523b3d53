/-! # Cutting texts at a character and replacing words

`splitAt` cuts at every occurrence of a character and `joinWith` puts the pieces together again:
`joinWith_splitAt` states that nothing is lost. `replaceAll` reads from left to right and never
looks at what it has written.
-/

namespace PostMarkup.Text

/-- The pieces of a text between the occurrences of a character; there is always one. -/
def splitAt (mark : Char) : List Char → List (List Char)
  | [] => [[]]
  | c :: rest =>
    if c = mark then [] :: splitAt mark rest
    else match splitAt mark rest with
      | first :: others => (c :: first) :: others
      | [] => [[c]]

/-- The pieces with a character written between every two of them. -/
def joinWith (mark : Char) : List (List Char) → List Char
  | [] => []
  | [last] => last
  | first :: next :: others => first ++ mark :: joinWith mark (next :: others)

theorem splitAt_ne_nil (mark : Char) (text : List Char) : splitAt mark text ≠ [] := by
  cases text with
  | nil => simp [splitAt]
  | cons c rest => unfold splitAt; split <;> (try split) <;> simp

/-- Joining the pieces of a text gives the text back. -/
theorem joinWith_splitAt (mark : Char) (text : List Char) :
    joinWith mark (splitAt mark text) = text := by
  induction text with
  | nil => rfl
  | cons c rest ih =>
    unfold splitAt
    split
    · rename_i same
      cases found : splitAt mark rest with
      | nil => exact absurd found (splitAt_ne_nil mark rest)
      | cons first others => simp [joinWith, ← found, ih, same]
    · cases found : splitAt mark rest with
      | nil => exact absurd found (splitAt_ne_nil mark rest)
      | cons first others =>
        rw [found] at ih
        cases others <;> simp [joinWith, ← ih]

/-- No piece holds the character at which the text is cut. -/
theorem not_mem_of_mem_splitAt {mark : Char} {text piece : List Char}
    (member : piece ∈ splitAt mark text) : mark ∉ piece := by
  induction text generalizing piece with
  | nil => simp_all [splitAt]
  | cons c rest ih =>
    unfold splitAt at member
    split at member
    · rcases List.mem_cons.mp member with rfl | member
      · simp
      · exact ih member
    · rename_i differs
      cases found : splitAt mark rest with
      | nil => exact absurd found (splitAt_ne_nil mark rest)
      | cons first others =>
        rw [found] at member
        rcases List.mem_cons.mp member with rfl | member
        · have clean := ih (found ▸ List.mem_cons_self ..)
          simp [Ne.symm differs, clean]
        · exact ih (found ▸ List.mem_cons_of_mem _ member)

/-- The text before and after the first occurrence of a character. -/
def cutAt? (mark : Char) : List Char → Option (List Char × List Char)
  | [] => none
  | c :: rest =>
    if c = mark then some ([], rest)
    else (cutAt? mark rest).map fun (before, after) => (c :: before, after)

/-- A cut leaves the text before the mark, the mark, and the text after it. -/
theorem eq_of_cutAt? {mark : Char} {text before after : List Char}
    (cut : cutAt? mark text = some (before, after)) : text = before ++ mark :: after := by
  induction text generalizing before with
  | nil => simp [cutAt?] at cut
  | cons c rest ih =>
    unfold cutAt? at cut
    split at cut
    · simp_all
    · obtain ⟨⟨head, tail⟩, found, same⟩ := Option.map_eq_some_iff.mp cut
      simp only [Prod.mk.injEq] at same
      obtain ⟨rfl, rfl⟩ := same
      simp [ih found]

/-- Every occurrence of a word replaced, from left to right; an empty word occurs nowhere. -/
def replaceAll (word replacement : List Char) (text : List Char) : List Char :=
  match text with
  | [] => []
  | c :: rest =>
    if ¬word.isEmpty ∧ word.isPrefixOf (c :: rest) then
      replacement ++ replaceAll word replacement (rest.drop (word.length - 1))
    else c :: replaceAll word replacement rest
termination_by text.length
decreasing_by all_goals (simp only [List.length_cons, List.length_drop]; omega)

def occursIn (word : List Char) : List Char → Bool
  | [] => word.isEmpty
  | c :: rest => word.isPrefixOf (c :: rest) || occursIn word rest

/-- The lines of a text, where a carriage return with or without a line feed ends a line too. -/
def lines (text : List Char) : List (List Char) :=
  splitAt '\n' (replaceAll ['\r'] ['\n'] (replaceAll ['\r', '\n'] ['\n'] text))

end PostMarkup.Text
