import Mathlib.Data.List.DropRight
import PostMarkup.Text.Blank
import PostMarkup.Text.Lines

/-! # Cutting and replacing where a character occurs

Text without a mark is passed over by a cut at that mark. A word is replaced nowhere in text without
its first character.
-/

namespace PostMarkup.Text

variable {c mark : Char} {front back word value : List Char}

/-- What follows the longest start of a list that satisfies a predicate. -/
theorem drop_takeWhile {α : Type} (keep : α → Bool) (items : List α) :
    items.drop (items.takeWhile keep).length = items.dropWhile keep := by
  induction items with
  | nil => rfl
  | cons item rest ih =>
    by_cases kept : keep item = true
    · simp [kept, ih]
    · simp [kept]

/-- Items that add nothing may be left out. -/
theorem flatMap_filter {α β : Type} {keep : α → Bool} {write : α → List β}
    (dropped : ∀ item, keep item = false → write item = []) (items : List α) :
    (items.filter keep).flatMap write = items.flatMap write := by
  induction items with
  | nil => rfl
  | cons item rest ih =>
    cases kept : keep item with
    | true => simp [kept, ih]
    | false => simp [kept, ih, dropped item kept]

theorem dropEndWhile_isStart (drop : Char → Bool) (text : List Char) :
    dropEndWhile drop text <+: text :=
  List.rdropWhile_prefix drop text

theorem cutAt?_of_not_mem (clean : mark ∉ front) :
    cutAt? mark (front ++ mark :: back) = some (front, back) := by
  induction front with
  | nil => simp [cutAt?]
  | cons c rest ih =>
    simp only [List.mem_cons, not_or] at clean
    simp [cutAt?, Ne.symm clean.1, ih clean.2]

/-- A cut is made at the first mark. -/
theorem not_mem_of_cutAt? {text : List Char} (cut : cutAt? mark text = some (front, back)) : mark ∉ front := by
  induction text generalizing front with
  | nil => simp [cutAt?] at cut
  | cons c rest ih =>
    unfold cutAt? at cut
    split at cut
    · simp_all
    · rename_i differs
      obtain ⟨⟨head, tail⟩, found, same⟩ := Option.map_eq_some_iff.mp cut
      simp only [Prod.mk.injEq] at same
      obtain ⟨rfl, rfl⟩ := same
      exact List.not_mem_cons_of_ne_of_not_mem (Ne.symm differs) (ih found)

/-- Text without the mark belongs to the first piece. -/
theorem splitAt_append (clean : mark ∉ front) (rest : List Char) : ∃ first others,
    splitAt mark rest = first :: others ∧ splitAt mark (front ++ rest) = (front ++ first) :: others := by
  induction front with
  | nil =>
    obtain ⟨first, others, found⟩ := List.exists_cons_of_ne_nil (splitAt_ne_nil mark rest)
    exact ⟨first, others, found, found⟩
  | cons c more ih =>
    simp only [List.mem_cons, not_or] at clean
    obtain ⟨first, others, found, later⟩ := ih clean.2
    refine ⟨first, others, found, ?_⟩
    rw [List.cons_append, splitAt, if_neg (Ne.symm clean.1), later]
    rfl

theorem splitAt_of_not_mem (clean : mark ∉ front) : splitAt mark front = [front] := by
  obtain ⟨first, others, found, later⟩ := splitAt_append clean []
  cases found
  simpa using later

/-- A mark ends one piece and starts another. -/
theorem splitAt_append_mark (left right : List Char) :
    splitAt mark (left ++ mark :: right) = splitAt mark left ++ splitAt mark right := by
  induction left with
  | nil => simp [splitAt]
  | cons c rest ih =>
    obtain ⟨first, others, found⟩ := List.exists_cons_of_ne_nil (splitAt_ne_nil mark rest)
    rw [List.cons_append, splitAt, splitAt, ih, found]
    split <;> rfl

theorem replaceAll_of_ne (differs : mark ≠ c) (rest : List Char) :
    replaceAll (mark :: word) value (c :: rest) = c :: replaceAll (mark :: word) value rest := by
  rw [replaceAll, if_neg]
  simp [differs]

theorem replaceAll_append_of_not_mem (clean : mark ∉ front) (rest : List Char) :
    replaceAll (mark :: word) value (front ++ rest) = front ++ replaceAll (mark :: word) value rest := by
  induction front with
  | nil => rfl
  | cons c others ih =>
    simp only [List.mem_cons, not_or] at clean
    rw [List.cons_append, replaceAll_of_ne clean.1, ih clean.2, List.cons_append]

/-- The only occurrence of a word that starts with a character of its own. -/
theorem replaceAll_place (clean : mark ∉ front) (clean' : mark ∉ back) :
    replaceAll (mark :: word) value (front ++ ((mark :: word) ++ back)) = front ++ (value ++ back) := by
  have later : replaceAll (mark :: word) value back = back := by
    have kept : replaceAll (mark :: word) value (back ++ []) = _ := replaceAll_append_of_not_mem clean' []
    simpa [replaceAll] using kept
  rw [replaceAll_append_of_not_mem clean, List.cons_append, replaceAll, if_pos (by simp)]
  simp [later]

/-- Line ends of two characters are written as one. -/
theorem replaceAll_lineEnd_cons (c : Char) (rest : List Char) :
    replaceAll ['\r', '\n'] ['\n'] (c :: rest) =
      if c = '\r' ∧ rest.head? = some '\n' then replaceAll ['\r', '\n'] ['\n'] rest
      else c :: replaceAll ['\r', '\n'] ['\n'] rest := by
  have starts : ['\r', '\n'].isPrefixOf (c :: rest) = true ↔ c = '\r' ∧ rest.head? = some '\n' := by
    cases rest with
    | nil => simp
    | cons d more => simp [@eq_comm Char '\r', @eq_comm Char '\n']
  rw [replaceAll]
  by_cases both : c = '\r' ∧ rest.head? = some '\n'
  · obtain ⟨more, rfl⟩ := List.head?_eq_some_iff.mp both.2
    have other : ¬(¬['\r', '\n'].isEmpty ∧ ['\r', '\n'].isPrefixOf ('\n' :: more)) := by simp
    rw [if_pos ⟨by simp, starts.mpr both⟩, if_pos both]
    conv => rhs; rw [replaceAll, if_neg other]
    rfl
  · rw [if_neg fun start => both (starts.mp start.2), if_neg both]

/-- Line ends are found on either side of a cut that no line end crosses. -/
theorem replaceAll_lineEnd_append (apart : ¬(front.getLast? = some '\r' ∧ back.head? = some '\n')) :
    replaceAll ['\r', '\n'] ['\n'] (front ++ back) =
      replaceAll ['\r', '\n'] ['\n'] front ++ replaceAll ['\r', '\n'] ['\n'] back := by
  induction front with
  | nil => simp [replaceAll]
  | cons c others ih =>
    have same : (c = '\r' ∧ (others ++ back).head? = some '\n') ↔ (c = '\r' ∧ others.head? = some '\n') := by
      cases others with
      | nil => simpa using apart
      | cons d more => rfl
    have apart' : ¬(others.getLast? = some '\r' ∧ back.head? = some '\n') := by
      cases others with
      | nil => simp
      | cons d more => simpa using apart
    rw [List.cons_append, replaceAll_lineEnd_cons, replaceAll_lineEnd_cons, ih apart']
    by_cases both : c = '\r' ∧ others.head? = some '\n'
    · rw [if_pos both, if_pos (same.mpr both)]
    · rw [if_neg both, if_neg (mt same.mp both), List.cons_append]

theorem replaceAll_lineEnd_of_line (line : '\n' ∉ front) : replaceAll ['\r', '\n'] ['\n'] front = front := by
  induction front with
  | nil => simp [replaceAll]
  | cons c others ih =>
    simp only [List.mem_cons, not_or] at line
    have kept : ¬(c = '\r' ∧ others.head? = some '\n') := fun both => line.2 (List.mem_of_head? both.2)
    rw [replaceAll_lineEnd_cons, if_neg kept, ih line.2]

/-- A text without carriage returns is cut at its line feeds. -/
theorem lines_eq_splitAt (returns : '\r' ∉ front) : lines front = splitAt '\n' front := by
  have kept (word value : List Char) : replaceAll ('\r' :: word) value front = front := by
    have kept : replaceAll ('\r' :: word) value (front ++ []) = _ := replaceAll_append_of_not_mem returns []
    simpa [replaceAll] using kept
  rw [lines, kept, kept]

/-- A text without line ends is one line. -/
theorem lines_of_line (returns : '\r' ∉ front) (newlines : '\n' ∉ front) : lines front = [front] := by
  rw [lines_eq_splitAt returns, splitAt_of_not_mem newlines]

theorem not_mem_joinWith {pieces : List (List Char)} (differs : c ≠ mark)
    (clean : ∀ piece ∈ pieces, c ∉ piece) : c ∉ joinWith mark pieces := by
  fun_induction joinWith mark pieces with
  | case1 => simp
  | case2 last => exact clean last List.mem_cons_self
  | case3 first next others ih =>
    obtain ⟨plain, further⟩ := List.forall_mem_cons.mp clean
    exact List.not_mem_append plain (List.not_mem_cons_of_ne_of_not_mem differs (ih further))

theorem subset_joinWith {pieces : List (List Char)} {piece : List Char} (member : piece ∈ pieces) :
    piece ⊆ joinWith mark pieces := by
  fun_induction joinWith mark pieces with
  | case1 => simp at member
  | case2 last => simp [List.mem_singleton.mp member]
  | case3 first next others ih =>
    rcases List.mem_cons.mp member with rfl | further
    · exact List.subset_append_left _ _
    · exact fun c inside => List.mem_append_right _ (List.mem_cons_of_mem _ (ih further inside))

/-- What a piece holds is in the text. -/
theorem subset_of_mem_splitAt {text piece : List Char} (member : piece ∈ splitAt mark text) : piece ⊆ text :=
  joinWith_splitAt mark text ▸ subset_joinWith member

/-- Pieces without the mark are found again between the marks. -/
theorem splitAt_joinWith {pieces : List (List Char)} (nonempty : pieces ≠ [])
    (clean : ∀ piece ∈ pieces, mark ∉ piece) : splitAt mark (joinWith mark pieces) = pieces := by
  fun_induction joinWith mark pieces with
  | case1 => exact absurd rfl nonempty
  | case2 last => exact splitAt_of_not_mem (clean last List.mem_cons_self)
  | case3 first next others ih =>
    obtain ⟨plain, further⟩ := List.forall_mem_cons.mp clean
    obtain ⟨head, tail, found, split⟩ := splitAt_append plain (mark :: joinWith mark (next :: others))
    rw [splitAt, if_pos rfl, ih (by simp) further] at found
    obtain ⟨rfl, rfl⟩ := List.cons.inj found
    rw [split, List.append_nil]

/-- Lines that are joined are the lines of the text. -/
theorem lines_joinWith {texts : List (List Char)} (nonempty : texts ≠ [])
    (clean : ∀ text ∈ texts, '\n' ∉ text ∧ '\r' ∉ text) : lines (joinWith '\n' texts) = texts := by
  have returns : '\r' ∉ joinWith '\n' texts := not_mem_joinWith (by decide) fun text member => (clean text member).2
  rw [lines_eq_splitAt returns, splitAt_joinWith nonempty fun text member => (clean text member).1]

/-- A word at the start of a text occurs in it. -/
theorem occursIn_start (word after : List Char) : occursIn word (word ++ after) = true := by
  cases word with
  | nil => cases after <;> simp [occursIn]
  | cons c rest =>
    have start : c :: rest <+: c :: (rest ++ after) := ⟨after, rfl⟩
    simp [occursIn, List.isPrefixOf_iff_prefix.mpr start]

theorem occursIn_append_of_right {after : List Char} (found : occursIn word after = true)
    (before : List Char) : occursIn word (before ++ after) = true := by
  induction before with
  | nil => exact found
  | cons c rest ih => simp [occursIn, ih]

theorem occursIn_append (before after : List Char) :
    occursIn word (before ++ (word ++ after)) = true :=
  occursIn_append_of_right (occursIn_start word after) before

end PostMarkup.Text
