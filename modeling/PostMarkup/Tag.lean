import PostMarkup.Text.Blank

/-! # Reading tags

A tag is `<` or `</`, a name of ASCII letters and digits that starts with a letter, and then a
blank, a slash or `>`. It ends at the first `>` outside quotes, and no `<` may stand outside quotes
before that. Every other `<` is an ordinary character. `pieces` cuts a text into its tags and the
characters between them, and `source_pieces` states that nothing is lost.
-/

namespace PostMarkup

open PostMarkup.Text

structure Tag where
  /-- The name with the capitals of ASCII made small. -/
  name : List Char
  /-- Whether the tag starts with `</`. -/
  closing : Bool
  /-- Whether a slash stands just before the final `>`. -/
  selfClosing : Bool
  /-- The characters from `<` to `>`. -/
  source : List Char
deriving DecidableEq, Repr

namespace Tag

/-- The characters up to and including the first `>` outside quotes; `quote` is the quote that is
open. None if a `<` outside quotes or the end of the text comes first. -/
def body? (quote : Option Char) : List Char → Option (List Char)
  | [] => none
  | c :: rest =>
    match quote with
    | some mark => (body? (if c = mark then none else some mark) rest).map (c :: ·)
    | none =>
      if c = '>' then some ['>']
      else if c = '<' then none
      else (body? (if c = '"' ∨ c = '\'' then some c else none) rest).map (c :: ·)

def endsName (c : Char) : Bool := isBlank c || c = '>' || c = '/'

/-- The tag that starts after the `<` or `</` written in `opening`. -/
def readName? (opening : List Char) (closing : Bool) (text : List Char) : Option Tag :=
  let name := text.takeWhile Char.isAlphanum
  let rest := text.dropWhile Char.isAlphanum
  if (name.head?.any Char.isAlpha) && rest.head?.any endsName then
    (body? none rest).map fun body =>
      ⟨name.map Char.toLower, closing, body.dropLast.getLast? = some '/', opening ++ name ++ body⟩
  else none

def read? : List Char → Option Tag
  | '<' :: '/' :: rest => readName? ['<', '/'] true rest
  | '<' :: rest => readName? ['<'] false rest
  | _ => none

theorem body?_isPrefix {quote : Option Char} {text body : List Char}
    (found : body? quote text = some body) : ∃ rest, text = body ++ rest ∧ body ≠ [] := by
  induction text generalizing quote body with
  | nil => simp [body?] at found
  | cons c rest ih =>
    unfold body? at found
    split at found
    · obtain ⟨inner, read, rfl⟩ := Option.map_eq_some_iff.mp found
      obtain ⟨after, rfl, _⟩ := ih read
      exact ⟨after, by simp, by simp⟩
    · split at found
      · rename_i greater
        simp only [Option.some.injEq] at found
        exact ⟨rest, by simp [← found, greater], by simp [← found]⟩
      · split at found
        · simp at found
        · obtain ⟨inner, read, rfl⟩ := Option.map_eq_some_iff.mp found
          obtain ⟨after, rfl, _⟩ := ih read
          exact ⟨after, by simp, by simp⟩

theorem readName?_source {opening text : List Char} {closing : Bool} {tag : Tag}
    (found : readName? opening closing text = some tag) :
    ∃ written rest, tag.source = opening ++ written ∧ text = written ++ rest := by
  simp only [readName?] at found
  split at found
  · obtain ⟨body, read, rfl⟩ := Option.map_eq_some_iff.mp found
    obtain ⟨rest, same, _⟩ := body?_isPrefix read
    refine ⟨text.takeWhile Char.isAlphanum ++ body, rest, by simp, ?_⟩
    rw [List.append_assoc, ← same, List.takeWhile_append_dropWhile]
  · simp at found

/-- A tag that is read is written at the start of the text, and it is not empty. -/
theorem read?_source {text : List Char} {tag : Tag} (found : read? text = some tag) :
    ∃ rest, text = tag.source ++ rest ∧ 0 < tag.source.length := by
  unfold read? at found
  split at found
  · obtain ⟨written, rest, source, rfl⟩ := readName?_source found
    exact ⟨rest, by simp [source], by simp [source]⟩
  · obtain ⟨written, rest, source, rfl⟩ := readName?_source found
    exact ⟨rest, by simp [source], by simp [source]⟩
  · simp at found

end Tag

/-- What a text of markup consists of. -/
inductive Piece where
  | tag (written : Tag)
  | char (c : Char)
deriving DecidableEq, Repr

namespace Piece

def source : Piece → List Char
  | .tag written => written.source
  | .char c => [c]

end Piece

def sourceOf (pieces : List Piece) : List Char := pieces.flatMap Piece.source

/-- The tags of a text and the characters between them. -/
def pieces : List Char → List Piece
  | [] => []
  | c :: rest =>
    match Tag.read? (c :: rest) with
    | some tag => .tag tag :: pieces (rest.drop (tag.source.length - 1))
    | none => .char c :: pieces rest
termination_by text => text.length
decreasing_by all_goals (simp only [List.length_cons, List.length_drop]; omega)

/-- Cutting a text into pieces loses nothing. -/
theorem source_pieces (text : List Char) : sourceOf (pieces text) = text := by
  fun_induction pieces text with
  | case1 => rfl
  | case2 c rest tag found ih =>
    obtain ⟨after, same, positive⟩ := Tag.read?_source found
    obtain ⟨first, others, source⟩ : ∃ first others, tag.source = first :: others :=
      List.exists_cons_of_length_pos positive
    rw [source] at same ih
    simp only [List.cons_append, List.cons.injEq] at same
    obtain ⟨rfl, rfl⟩ := same
    simp only [sourceOf] at ih ⊢
    simp_all [Piece.source]
  | case3 c rest none ih =>
    simp only [sourceOf] at ih ⊢
    simp [Piece.source, ih]

end PostMarkup
