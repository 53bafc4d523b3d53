import PostMarkup.Tag
import PostMarkup.Text.Ascii

/-! # Tags that read back

Reading a tag looks no further than its final `>`. So a tag that reads back from its own characters
reads back in front of any text, and markup put together from such tags and from characters other
than `<` is cut into exactly these pieces again.
-/

namespace PostMarkup

open PostMarkup.Text

/-- A blank is no letter or digit of ASCII. -/
theorem Text.not_isAlphanum_of_isBlank {c : Char} (blank : isBlank c = true) :
    c.isAlphanum = false := by
  rw [Bool.eq_false_iff]
  intro alphanumeric
  have bounds : (((c.val ≥ 65 ∧ c.val ≤ 90) || (c.val ≥ 97 && c.val ≤ 122)) ||
      (c.val ≥ 48 && c.val ≤ 57)) = true := alphanumeric
  simp only [isBlank, Char.toNat, Bool.or_eq_true, Bool.and_eq_true, decide_eq_true_eq,
    UInt32.le_iff_toNat_le, ge_iff_le] at blank bounds
  by_cases space : c = ' '
  · subst space
    revert bounds
    decide
  · simp only [space, false_or] at blank
    change (65 ≤ c.val.toNat ∧ c.val.toNat ≤ 90 ∨ 97 ≤ c.val.toNat ∧ c.val.toNat ≤ 122) ∨
      48 ≤ c.val.toNat ∧ c.val.toNat ≤ 57 at bounds
    omega

/-- A blank is no capital. -/
theorem Text.toLower_of_isBlank {c : Char} (blank : isBlank c = true) : c.toLower = c :=
  toLower_of_not_isAlphanum (not_isAlphanum_of_isBlank blank)

namespace Tag

theorem not_isAlphanum_of_endsName {c : Char} (ends : endsName c = true) :
    c.isAlphanum = false := by
  simp only [endsName, Bool.or_eq_true, decide_eq_true_eq] at ends
  rcases ends with (blank | rfl) | rfl
  · exact not_isAlphanum_of_isBlank blank
  · decide
  · decide

/-- What follows the final `>` of a tag does not matter. -/
theorem body?_append {quote : Option Char} {text body : List Char}
    (found : body? quote text = some body) (rest : List Char) :
    body? quote (body ++ rest) = some body := by
  induction text generalizing quote body with
  | nil => simp [body?] at found
  | cons c others ih =>
    unfold body? at found
    split at found
    · obtain ⟨inner, read, rfl⟩ := Option.map_eq_some_iff.mp found
      simp [body?, ih read]
    · split at found
      · rename_i greater
        simp only [Option.some.injEq] at found
        simp [← found, body?]
      · split at found
        · simp at found
        · rename_i notGreater notLess
          obtain ⟨inner, read, rfl⟩ := Option.map_eq_some_iff.mp found
          simp [body?, notGreater, notLess, ih read]

/-- The shape of a text that starts with the rest of a tag: a name, and a body that ends it. -/
theorem readName?_eq_some_iff {opening text : List Char} {closing : Bool} {tag : Tag} :
    readName? opening closing text = some tag ↔
      ∃ name body, text.takeWhile Char.isAlphanum = name ∧ name.head?.any Char.isAlpha = true ∧
        (text.dropWhile Char.isAlphanum).head?.any endsName = true ∧
        body? none (text.dropWhile Char.isAlphanum) = some body ∧
        tag = ⟨name.map Char.toLower, closing, body.dropLast.getLast? = some '/',
          opening ++ name ++ body⟩ := by
  simp only [readName?]
  constructor
  · intro found
    split at found
    · rename_i shape
      obtain ⟨body, read, rfl⟩ := Option.map_eq_some_iff.mp found
      simp only [Bool.and_eq_true] at shape
      exact ⟨_, body, rfl, shape.1, shape.2, read, rfl⟩
    · simp at found
  · rintro ⟨name, body, rfl, letter, ends, read, rfl⟩
    simp [letter, ends, read]

/-- A name of letters and digits before a body reads as itself. -/
theorem takeWhile_name {name body : List Char} (word : ∀ c ∈ name, c.isAlphanum = true)
    (ends : body.head?.any endsName = true) :
    (name ++ body).takeWhile Char.isAlphanum = name ∧
      (name ++ body).dropWhile Char.isAlphanum = body := by
  cases body with
  | nil => simp at ends
  | cons c rest =>
    have stop : c.isAlphanum = false := not_isAlphanum_of_endsName (by simpa using ends)
    constructor
    · rw [List.takeWhile_append_of_pos word]
      simp [stop]
    · rw [List.dropWhile_append_of_pos word]
      simp [stop]

/-- A `<` without a slash after it starts an opening tag. -/
theorem read?_less {c : Char} (notSlash : c ≠ '/') (rest : List Char) :
    read? ('<' :: c :: rest) = readName? ['<'] false (c :: rest) := by
  unfold read?
  split
  · rename_i shape
    simp only [List.cons.injEq, true_and] at shape
    exact absurd shape.1 notSlash
  · rename_i shape
    obtain ⟨_, rfl⟩ := List.cons.inj shape
    rfl
  · rename_i shape
    exact (shape _ rfl).elim

/-- A tag reads the same whatever follows it. -/
theorem readName?_append {opening text : List Char} {closing : Bool} {tag : Tag}
    (found : readName? opening closing text = some tag) (rest : List Char) :
    ∃ written, tag.source = opening ++ written ∧ written.head? = text.head? ∧
      readName? opening closing (written ++ rest) = some tag := by
  obtain ⟨name, body, named, letter, ends, read, rfl⟩ := readName?_eq_some_iff.mp found
  obtain ⟨after, same, nonempty⟩ := body?_isPrefix read
  have word : ∀ c ∈ name, c.isAlphanum = true := by
    rw [← named]
    exact List.all_eq_true.mp List.all_takeWhile
  have ends' : (body ++ rest).head?.any endsName = true := by
    obtain ⟨c, others, rfl⟩ := List.exists_cons_of_ne_nil nonempty
    simpa [same] using ends
  obtain ⟨taken, dropped⟩ := takeWhile_name word ends'
  refine ⟨name ++ body, by simp, ?_, ?_⟩
  · rw [← List.takeWhile_append_dropWhile (p := Char.isAlphanum) (l := text), named, same]
    cases name with
    | nil => simp at letter
    | cons c others => rfl
  · rw [List.append_assoc]
    refine readName?_eq_some_iff.mpr ⟨name, body, taken, letter, ?_, ?_, rfl⟩
    · rwa [dropped]
    · rw [dropped]
      exact body?_append read rest

/-- A tag that is read reads back in front of any text. -/
theorem read?_append {text : List Char} {tag : Tag} (found : read? text = some tag)
    (rest : List Char) : read? (tag.source ++ rest) = some tag := by
  unfold read? at found
  split at found
  · obtain ⟨written, source, _, again⟩ := readName?_append found rest
    simpa only [source, List.cons_append, List.nil_append, read?] using again
  · rename_i others notSlash
    obtain ⟨written, source, head, again⟩ := readName?_append found rest
    simp only [source, List.cons_append, List.nil_append]
    cases written with
    | nil =>
      cases others with
      | nil => simp [readName?] at found
      | cons c more => simp at head
    | cons c more =>
      have notSlash' : c ≠ '/' := by
        rintro rfl
        cases others with
        | nil => simp at head
        | cons d further =>
          simp only [List.head?_cons, Option.some.injEq] at head
          exact notSlash further (by rw [← head])
      rw [List.cons_append] at again ⊢
      rw [read?_less notSlash', again]
  · simp at found

/-- Whether a tag reads back from its own characters. -/
def IsWritten (tag : Tag) : Prop := read? tag.source = some tag

instance (tag : Tag) : Decidable tag.IsWritten := inferInstanceAs (Decidable (read? tag.source = some tag))

/-- A written tag starts with `<`. -/
theorem IsWritten.eq_cons {tag : Tag} (written : tag.IsWritten) :
    ∃ rest, tag.source = '<' :: rest := by
  unfold IsWritten read? at written
  split at written
  · rename_i rest source
    exact ⟨_, source⟩
  · rename_i rest _ source
    exact ⟨_, source⟩
  · simp at written

/-- A body of a tag ends at its only `>` outside quotes. -/
theorem body?_eq_concat {quote : Option Char} {text body : List Char} (found : body? quote text = some body) :
    ∃ front, body = front ++ ['>'] := by
  induction text generalizing quote body with
  | nil => simp [body?] at found
  | cons c rest ih =>
    unfold body? at found
    split at found
    · obtain ⟨inner, read, rfl⟩ := Option.map_eq_some_iff.mp found
      obtain ⟨front, rfl⟩ := ih read
      exact ⟨c :: front, rfl⟩
    · split at found
      · exact ⟨[], (Option.some.inj found).symm⟩
      · split at found
        · simp at found
        · obtain ⟨inner, read, rfl⟩ := Option.map_eq_some_iff.mp found
          obtain ⟨front, rfl⟩ := ih read
          exact ⟨c :: front, rfl⟩

/-- A written tag consists of `<` or `</`, a name and a body, and the last character before its final
`>` tells whether it closes itself. -/
theorem IsWritten.exists_shape {tag : Tag} (written : tag.IsWritten) :
    ∃ front, tag.source = front ++ ['>'] ∧ (tag.selfClosing = true ↔ front.getLast? = some '/') ∧
      (tag.closing = true ↔ "</".toList <+: tag.source) := by
  have read (opening text : List Char) (closing : Bool) (found : readName? opening closing text = some tag) :
      ∃ front, tag.source = front ++ ['>'] ∧ (tag.selfClosing = true ↔ front.getLast? = some '/') ∧
        tag.closing = closing := by
    obtain ⟨name, body, named, letter, _, ends, rfl⟩ := readName?_eq_some_iff.mp found
    obtain ⟨inner, rfl⟩ := body?_eq_concat ends
    refine ⟨opening ++ name ++ inner, by simp, ?_, rfl⟩
    simp only [List.dropLast_concat, decide_eq_true_eq]
    cases inner with
    | cons c rest => simp [List.getLast?_append]
    | nil =>
      obtain ⟨front, last, rfl⟩ : ∃ front last, name = front ++ [last] := by
        rcases List.eq_nil_or_concat name with rfl | ⟨front, last, rfl⟩
        · simp at letter
        · exact ⟨front, last, List.concat_eq_append ..⟩
      have word : last.isAlphanum = true := by
        have all : (text.takeWhile Char.isAlphanum).all Char.isAlphanum = true := List.all_takeWhile
        rw [named, List.all_append] at all
        simpa using (Bool.and_eq_true_iff.mp all).2
      have differs : last ≠ '/' := by
        rintro rfl
        exact absurd word (by decide)
      simp [differs]
  unfold IsWritten read? at written
  split at written
  · rename_i rest source
    obtain ⟨front, whole, slash, closing⟩ := read _ _ _ written
    refine ⟨front, whole, slash, ?_⟩
    rw [closing, source]
    simp
  · rename_i rest notSlash source
    obtain ⟨front, whole, slash, closing⟩ := read _ _ _ written
    refine ⟨front, whole, slash, ?_⟩
    rw [closing, source]
    simp only [Bool.false_eq_true, false_iff]
    rintro ⟨after, same⟩
    exact notSlash after (List.cons.inj same).2.symm
  · simp at written

/-- A written tag ends with `>`. -/
theorem IsWritten.getLast?_source {tag : Tag} (written : tag.IsWritten) : tag.source.getLast? = some '>' := by
  obtain ⟨front, source, _⟩ := written.exists_shape
  rw [source, List.getLast?_concat]

end Tag

@[simp] theorem pieces_nil : pieces [] = [] := by simp [pieces]

/-- A tag starts with `<`. -/
theorem Tag.read?_of_ne {c : Char} (differs : c ≠ '<') (rest : List Char) : read? (c :: rest) = none := by
  unfold read?
  split
  · rename_i shape
    exact (differs (List.cons.inj shape).1).elim
  · rename_i shape
    exact (differs (List.cons.inj shape).1).elim
  · rfl

theorem pieces_of_ne {c : Char} (differs : c ≠ '<') (rest : List Char) :
    pieces (c :: rest) = .char c :: pieces rest := by
  rw [pieces, Tag.read?_of_ne differs]

theorem pieces_of_isWritten {tag : Tag} (written : tag.IsWritten) (rest : List Char) :
    pieces (tag.source ++ rest) = .tag tag :: pieces rest := by
  have found : Tag.read? (tag.source ++ rest) = some tag := Tag.read?_append written rest
  obtain ⟨others, source⟩ := written.eq_cons
  rw [source, List.cons_append] at found ⊢
  rw [pieces, found]
  simp [source]

/-- The tags that are cut out of a text read back. -/
theorem isWritten_of_mem_pieces {tag : Tag} {text : List Char} (member : .tag tag ∈ pieces text) :
    tag.IsWritten := by
  fun_induction pieces text with
  | case1 => simp at member
  | case2 c rest other found ih =>
    rcases List.mem_cons.mp member with same | later
    · obtain rfl := Piece.tag.inj same
      simpa [Tag.IsWritten] using Tag.read?_append found []
    · exact ih later
  | case3 c rest unread ih => exact ih (by simpa using member)

/-- Text without `<` is cut into its characters. -/
theorem pieces_of_not_mem {text : List Char} (clean : '<' ∉ text) (rest : List Char) :
    pieces (text ++ rest) = text.map .char ++ pieces rest := by
  induction text with
  | nil => rfl
  | cons c others ih =>
    simp only [List.mem_cons, not_or] at clean
    rw [List.cons_append, pieces_of_ne (Ne.symm clean.1), ih clean.2]
    rfl

/-- A piece is written when it is cut out of markup as itself. -/
def Piece.IsWritten : Piece → Prop
  | .tag written => written.IsWritten
  | .char c => c ≠ '<'

instance : DecidablePred Piece.IsWritten
  | .tag written => inferInstanceAs (Decidable written.IsWritten)
  | .char c => inferInstanceAs (Decidable (c ≠ '<'))

@[simp] theorem sourceOf_nil : sourceOf [] = [] := rfl

@[simp] theorem sourceOf_cons (piece : Piece) (rest : List Piece) :
    sourceOf (piece :: rest) = piece.source ++ sourceOf rest := rfl

@[simp] theorem sourceOf_append (left right : List Piece) :
    sourceOf (left ++ right) = sourceOf left ++ sourceOf right := by
  simp [sourceOf]

/-- Characters on their own make up a text. -/
@[simp] theorem sourceOf_map_char (text : List Char) : sourceOf (text.map .char) = text := by
  induction text with
  | nil => rfl
  | cons c rest ih => simpa [Piece.source] using ih

/-- Whether every tag among pieces is complete: tags read back, and no other character starts a tag,
whatever follows. -/
def IsComplete : List Piece → Prop
  | [] => True
  | .tag tag :: rest => tag.IsWritten ∧ IsComplete rest
  | .char c :: rest => (∀ after, Tag.read? (c :: (sourceOf rest ++ after)) = none) ∧ IsComplete rest

/-- Complete pieces are cut out of their characters again, whatever follows. -/
theorem pieces_of_isComplete {parts : List Piece} (complete : IsComplete parts) (rest : List Char) :
    pieces (sourceOf parts ++ rest) = parts ++ pieces rest := by
  induction parts with
  | nil => rfl
  | cons part others ih =>
    rw [sourceOf_cons, List.append_assoc, List.cons_append]
    cases part with
    | tag tag =>
      rw [← ih complete.2]
      exact pieces_of_isWritten complete.1 _
    | char c =>
      have unread := complete.1 rest
      rw [← ih complete.2, Piece.source, List.singleton_append, pieces, unread]

theorem isComplete_of_isWritten {parts : List Piece} (written : ∀ part ∈ parts, part.IsWritten) :
    IsComplete parts := by
  induction parts with
  | nil => trivial
  | cons part others ih =>
    obtain ⟨first, further⟩ := List.forall_mem_cons.mp written
    cases part with
    | tag tag => exact ⟨first, ih further⟩
    | char c => exact ⟨fun _ => Tag.read?_of_ne first _, ih further⟩

/-- Written pieces are cut out of their characters again. -/
theorem pieces_sourceOf_append {parts : List Piece} (written : ∀ part ∈ parts, part.IsWritten)
    (rest : List Char) : pieces (sourceOf parts ++ rest) = parts ++ pieces rest :=
  pieces_of_isComplete (isComplete_of_isWritten written) rest

end PostMarkup
