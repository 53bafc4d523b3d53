import PostMarkup.Proofs.Markdown.Atom
import PostMarkup.Proofs.Text.LetterCase
import PostMarkup.Proofs.Text.Run

/-! # Quoting text

A text is shown as it is in two ways. With a backslash before each character of punctuation it starts no
construct. Between two equal runs of backticks it is code if it holds no such run itself and neither
starts nor ends with a backtick, and a space is dropped at either end if both are there.
-/

namespace PostMarkup.Markdown

open PostMarkup.Text PostMarkup.Unicode

variable {previous : Option Char} {c : Char} {rest text content shown shown' : List Char} {run : Nat}

def backslashed (text : List Char) : List Char := text.flatMap fun c => if isPunctuation c then ['\\', c] else [c]

@[simp] theorem backslashed_nil : backslashed [] = [] := rfl

theorem backslashed_of_punctuation (marked : isPunctuation c = true) (rest : List Char) :
    backslashed (c :: rest) = '\\' :: c :: backslashed rest := by
  simp [backslashed, marked]

theorem backslashed_of_plain (plain : isPunctuation c = false) (rest : List Char) :
    backslashed (c :: rest) = c :: backslashed rest := by
  simp [backslashed, plain]

/-- A word with a colon after it starts no text in which each colon follows a backslash. -/
theorem not_isPrefix_backslashed {word after : List Char} (unescaped : '\\' ∉ word) (text : List Char) :
    ¬ word ++ ':' :: after <+: lowerAscii (backslashed text) := by
  induction text generalizing word with
  | nil => simp [lowerAscii]
  | cons c rest ih =>
    cases marked : isPunctuation c with
    | true =>
      rw [backslashed_of_punctuation marked]
      cases word with
      | nil => simp [lowerAscii]
      | cons w others =>
        obtain ⟨differs, _⟩ := List.ne_and_not_mem_of_not_mem_cons unescaped
        simp [lowerAscii, differs.symm]
    | false =>
      rw [backslashed_of_plain marked]
      cases word with
      | nil =>
        intro begins
        obtain rfl := eq_of_toLower (by decide) (List.cons_prefix_cons.mp begins).1.symm
        exact absurd marked (by decide)
      | cons w others =>
        obtain ⟨_, further⟩ := List.ne_and_not_mem_of_not_mem_cons unescaped
        intro begins
        exact ih further (List.cons_prefix_cons.mp begins).2

theorem bareAddress?_backslashed (previous : Option Char) (text : List Char) :
    bareAddress? previous (backslashed text) = none := by
  have shape : ∀ scheme ∈ Url.linkedSchemes, ∃ word, '\\' ∉ word ∧ scheme = word ++ ':' :: "//".toList := by
    simp only [Url.linkedSchemes, List.forall_mem_cons]
    exact ⟨⟨"http".toList, by decide, rfl⟩, ⟨"https".toList, by decide, rfl⟩, by simp⟩
  -- the colon of a scheme would follow a letter
  have unschemed : Url.linkedScheme? (backslashed text) = none := by
    refine List.find?_eq_none.mpr fun scheme listed starts => ?_
    obtain ⟨word, unescaped, rfl⟩ := shape scheme listed
    exact not_isPrefix_backslashed unescaped text (startsIgnoringCase_iff.mp starts)
  simp [bareAddress?, unschemed]

theorem step_backslash (marked : isPunctuation c = true) (rest : List Char) :
    step previous '\\' (c :: rest) = .whole (.text [c]) 2 := by
  simp [step, marked]

theorem step_backslashed (plain : isPunctuation c = false) (rest : List Char) :
    step previous c (backslashed rest) = .whole (.text [c]) 1 := by
  have other : ∀ mark, isPunctuation mark = true → c ≠ mark := by
    rintro mark marked rfl
    exact Bool.false_ne_true (plain.symm.trans marked)
  have unmarked : c ∉ "\\\x60[".toList := fun listed =>
    other c ((by decide : ∀ mark ∈ "\\\x60[".toList, isPunctuation mark = true) c listed) rfl
  have address := bareAddress?_backslashed previous (c :: rest)
  rw [backslashed_of_plain plain] at address
  have unstyled : styledStep? previous (c :: backslashed rest) = none :=
    styledStep?_of_ne fun delimiter known =>
      other _ ((by decide : ∀ delimiter ∈ Delimiter.all, isPunctuation delimiter.marker = true) delimiter known)
  rw [step_of_plain unmarked fun image => absurd image (other '!' (by decide)), address, unstyled]
  rfl

/-- Wherever a text with a backslash before each character of punctuation stands, it is shown as the text. -/
theorem htmlOf_inlinesFrom_backslashed (previous : Option Char) (text : List Char) :
    Inline.htmlOf (inlinesFrom previous (backslashed text)) = escapeText text := by
  induction text generalizing previous with
  | nil => simp [inlinesFrom]
  | cons c rest ih =>
    cases marked : isPunctuation c with
    | true =>
      rw [backslashed_of_punctuation marked, inlinesFrom_whole (step_backslash marked (backslashed rest)),
        Inline.htmlOf_cons, Inline.html]
      simp [ih]
    | false =>
      rw [backslashed_of_plain marked, inlinesFrom_whole (step_backslashed marked rest), Inline.htmlOf_cons,
        Inline.html]
      simp [ih]

/-- A text with a backslash before each character of punctuation is only escaped. -/
theorem renderLine_backslashed (text : List Char) : renderLine (backslashed text) = escapeText text :=
  htmlOf_inlinesFrom_backslashed none text

/-- Whether a text stands between runs of so many backticks as the content of a code span: no backtick of
the text joins the runs, and the text holds no such run. -/
structure FitsCodeSpan (run : Nat) (content : List Char) : Prop where
  positive : 0 < run
  filled : content ≠ []
  first : '\x60' ∉ content.head?
  last : '\x60' ∉ content.getLast?
  free : ¬HasRun '\x60' run content

/-- What a code span shows of its content: what stands between two spaces, unless all of it is spaces, or
else the whole. -/
inductive ShownAsCode : List Char → List Char → Prop
  | padded {inner : List Char} : (∃ c ∈ inner, c ≠ ' ') → ShownAsCode (' ' :: (inner ++ [' '])) inner
  | whole {content : List Char} : (∀ inner, content = ' ' :: (inner ++ [' ']) → ∀ c ∈ inner, c = ' ') →
      ShownAsCode content content

theorem ShownAsCode.of_padded (filled : ∃ c ∈ shown, c ≠ ' ') (padded : content = ' ' :: (shown ++ [' ']))
    (asCode : ShownAsCode content shown') : shown' = shown := by
  cases asCode with
  | padded _ => exact List.append_cancel_right (List.cons.inj padded).2
  | whole unpadded =>
    obtain ⟨c, member, other⟩ := filled
    exact absurd (unpadded shown padded c member) other

theorem padded_iff : 2 ≤ content.length ∧ content.head? = some ' ' ∧ content.getLast? = some ' ' ↔
    ∃ inner, content = ' ' :: (inner ++ [' ']) := by
  constructor
  · rintro ⟨long, first, last⟩
    obtain ⟨rest, rfl⟩ := List.head?_eq_some_iff.mp first
    obtain rfl | ⟨inner, c, rfl⟩ := List.eq_nil_or_concat' rest
    · exact absurd long (by decide)
    · rw [← List.cons_append, List.getLast?_concat] at last
      obtain rfl := Option.some.inj last
      exact ⟨inner, rfl⟩
  · rintro ⟨inner, rfl⟩
    exact ⟨by simp, rfl, by rw [← List.cons_append, List.getLast?_concat]⟩

theorem shownAsCode_codeContent (content : List Char) : ShownAsCode content (codeContent content) := by
  unfold codeContent
  split
  · rename_i spaced
    obtain ⟨inner, rfl⟩ := padded_iff.mp ⟨spaced.1, spaced.2.1, spaced.2.2.1⟩
    have shown : (' ' :: (inner ++ [' '])).tail.dropLast = inner := List.dropLast_concat
    rw [shown]
    exact .padded (by simpa using spaced.2.2.2)
  · rename_i unspaced
    refine .whole ?_
    rintro inner rfl c member
    obtain ⟨long, first, last⟩ := padded_iff.mpr ⟨inner, rfl⟩
    by_contra other
    exact unspaced ⟨long, first, last, by simpa using ⟨c, member, other⟩⟩

theorem backticks_replicate_append (count : Nat) (differs : c ≠ '\x60') (rest : List Char) :
    backticks (List.replicate count '\x60' ++ c :: rest) = count := by
  rw [backticks, takeWhile_replicate_append '\x60' count (by simpa using differs), List.length_replicate]

theorem backticks_replicate (count : Nat) : backticks (List.replicate count '\x60') = count := by
  simp [backticks]

/-- A run of backticks in front of another character ends the search or is passed over as a whole. -/
theorem untilBackticks?_run (count : Nat) (differs : c ≠ '\x60') (rest : List Char) :
    untilBackticks? run (List.replicate (count + 1) '\x60' ++ c :: rest) = if count + 1 = run then some []
      else (untilBackticks? run (c :: rest)).map (List.replicate (count + 1) '\x60' ++ ·) := by
  rw [List.replicate_succ, List.cons_append, untilBackticks?, if_pos rfl, backticks_replicate_append count differs]
  simp only [Nat.add_sub_cancel, List.drop_left' List.length_replicate]
  rfl

/-- A backtick at the start of a text that does not end with one belongs to a run with another character
behind it. -/
theorem exists_of_backtick (last : '\x60' ∉ ('\x60' :: rest).getLast?) : ∃ count c more, c ≠ '\x60' ∧
    rest = List.replicate count '\x60' ++ c :: more ∧ '\x60' ∉ (c :: more).getLast? := by
  have filled : rest ≠ [] := by
    rintro rfl
    exact last rfl
  have last' := not_mem_getLast?_of_append ['\x60'] last
  obtain ⟨c, more, differs, whole⟩ := exists_of_getLast? filled last'
  exact ⟨_, c, more, differs, whole, not_mem_getLast?_of_append _ (whole ▸ last')⟩

/-- A text that neither ends with a backtick nor holds a run of so many backticks is read up to such a run
behind it. -/
theorem untilBackticks?_replicate (positive : 0 < run) (last : '\x60' ∉ content.getLast?)
    (free : ¬HasRun '\x60' run content) :
    untilBackticks? run (content ++ List.replicate run '\x60') = some content := by
  fun_induction untilBackticks? run content with
  | case1 =>
    obtain ⟨more, rfl⟩ := Nat.exists_eq_succ_of_ne_zero (Nat.ne_of_gt positive)
    rw [List.nil_append, List.replicate_succ, untilBackticks?, if_pos rfl, backticks_replicate, if_pos rfl]
  | case2 rest count same =>
    -- the text would start with such a run
    obtain ⟨before, c, more, differs, rfl, _⟩ := exists_of_backtick last
    have reached := backticks_replicate_append before differs more
    obtain rfl : before + 1 = run := (congrArg (· + 1) reached).symm.trans same
    exact absurd ⟨[], c :: more, rfl, by simp, by simpa using differs⟩ free
  | case3 rest count other ih =>
    obtain ⟨before, c, more, differs, rfl, last'⟩ := exists_of_backtick last
    have reached := backticks_replicate_append before differs more
    have other' : before + 1 ≠ run := fun same => other ((congrArg (· + 1) reached).trans same)
    have passed : (List.replicate before '\x60' ++ c :: more).drop (count - 1) = c :: more :=
      (congrArg (List.drop · _) reached).trans (List.drop_left' List.length_replicate)
    rw [passed] at ih
    have whole : '\x60' :: (List.replicate before '\x60' ++ c :: more) =
      List.replicate (before + 1) '\x60' ++ c :: more := rfl
    rw [whole] at free ⊢
    have free' : ¬HasRun '\x60' run (c :: more) := fun has =>
      free (has.append_left positive _ (.inr (by simpa using differs)))
    rw [List.append_assoc, List.cons_append, untilBackticks?_run before differs, if_neg other', ← List.cons_append,
      ih last' free']
    rfl
  | case4 c rest other ih =>
    have free' : ¬HasRun '\x60' run rest := fun has =>
      free (has.append_left positive [c] (.inl (by simpa using other)))
    have last' := not_mem_getLast?_of_append [c] last
    rw [List.cons_append, untilBackticks?, if_neg other, ih last' free']
    rfl

theorem backtickStep_codeSpan (fits : FitsCodeSpan run content) :
    backtickStep (List.replicate run '\x60' ++ (content ++ List.replicate run '\x60')) =
      .whole (.code (codeContent content)) (run + content.length + run) := by
  obtain ⟨c, rest, rfl⟩ := List.exists_cons_of_ne_nil fits.filled
  have differs : c ≠ '\x60' := by
    rintro rfl
    exact fits.first rfl
  have opening : backticks (List.replicate run '\x60' ++ (c :: rest ++ List.replicate run '\x60')) = run :=
    backticks_replicate_append run differs _
  unfold backtickStep
  simp only [opening, List.drop_left' List.length_replicate, untilBackticks?_replicate fits.positive fits.last fits.free]

/-- A text between two runs of backticks is shown as code, whatever it holds, if no such run is part of it. -/
theorem renderLine_codeSpan (fits : FitsCodeSpan run content) : ∃ shown, ShownAsCode content shown ∧
    renderLine (List.replicate run '\x60' ++ content ++ List.replicate run '\x60') =
      writeElement "code".toList (escapeText shown) := by
  refine ⟨codeContent content, shownAsCode_codeContent content, ?_⟩
  have span := backtickStep_codeSpan fits
  obtain ⟨more, rfl⟩ := Nat.exists_eq_succ_of_ne_zero (Nat.ne_of_gt fits.positive)
  rw [List.append_assoc]
  rw [List.replicate_succ, List.cons_append] at span ⊢
  rw [← step_backtick none] at span
  have single := inlines_whole span (by simp only [List.length_append, List.length_cons, List.length_replicate]; omega)
  rw [renderLine, single, Inline.htmlOf_cons, Inline.htmlOf_nil, List.append_nil, Inline.html]

/-- A code span between two backticks that holds runs of one and of three, with a space dropped at either end. -/
theorem renderLine_codeSpan_runs : FitsCodeSpan 2 " \x60a *\x60\x60\x60 <b> ".toList ∧
    ShownAsCode " \x60a *\x60\x60\x60 <b> ".toList "\x60a *\x60\x60\x60 <b>".toList ∧
      renderLine (List.replicate 2 '\x60' ++ " \x60a *\x60\x60\x60 <b> ".toList ++ List.replicate 2 '\x60') =
        "<code>\x60a *\x60\x60\x60 &lt;b&gt;</code>".toList := by
  have fits : FitsCodeSpan 2 " \x60a *\x60\x60\x60 <b> ".toList :=
    { positive := by decide, filled := by decide, first := by decide, last := by decide, free := by decide }
  obtain ⟨shown, asCode, rendered⟩ := renderLine_codeSpan fits
  obtain rfl : shown = "\x60a *\x60\x60\x60 <b>".toList := asCode.of_padded ⟨'a', by decide, by decide⟩ rfl
  exact ⟨fits, asCode, rendered.trans rfl⟩

end PostMarkup.Markdown
