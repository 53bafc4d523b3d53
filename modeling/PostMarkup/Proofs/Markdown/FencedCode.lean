import Mathlib.Data.List.TakeWhile
import PostMarkup.Markdown.Document
import PostMarkup.Proofs.Markdown.CodeBlock
import PostMarkup.Proofs.Markup.Written
import PostMarkup.Proofs.Text.Lines
import PostMarkup.Proofs.Text.Run

/-! # A document that is one fenced block

An opening fence makes code of all lines up to the first one that closes it, before any other construct
looks at them. So a document of a fence, lines that do not close it and the same fence again is one code
block, whatever stands on these lines.
-/

namespace PostMarkup.Markdown

open PostMarkup.Text

/-- Whether a line closes a fence of some length: at most three spaces, the marker at least as often as
in the fence, and then spaces and tabs. -/
def Closes (marker : Char) (length : Nat) (line : List Char) : Prop :=
  ∃ indent count blanks, indent ≤ 3 ∧ length ≤ count ∧ (∀ c ∈ blanks, c = ' ' ∨ c = '\t') ∧
    line = List.replicate indent ' ' ++ (List.replicate count marker ++ blanks)

/-- A line that opens a fenced block: at most three spaces, backticks or tildes, at least three of them, and a
text without backticks, whose first word may name a language. -/
structure IsOpener (fence : Fence) (info line : List Char) : Prop where
  written : line = List.replicate fence.indent ' ' ++ (List.replicate fence.length fence.marker ++ info)
  indented : fence.indent ≤ 3
  marks : fence.marker = '\x60' ∨ fence.marker = '~'
  long : 3 ≤ fence.length
  ended : fence.marker ∉ info.head?
  plain : '\x60' ∉ info
  named : fence.language = Fence.language? info

def Opens (fence : Fence) (line : List Char) : Prop := ∃ info, IsOpener fence info line

def fenceLine (marker : Char) (length : Nat) (language : Option (List Char)) : List Char :=
  List.replicate length marker ++ language.getD []

/-- The text of some lines between a fence with a language and the same fence without one. -/
def fencedText (marker : Char) (length : Nat) (language : Option (List Char)) (body : List (List Char)) : List Char :=
  joinWith '\n' (fenceLine marker length language :: (body ++ [fenceLine marker length none]))

/-- Whether some lines are the body of a fence: the fence consists of three or more backticks or tildes,
the language is a word of some characters of ASCII, and no line closes the fence. -/
structure IsFenced (marker : Char) (length : Nat) (language : Option (List Char)) (body : List (List Char)) : Prop where
  marks : marker = '\x60' ∨ marker = '~'
  long : 3 ≤ length
  named : ∀ word ∈ language, word ≠ [] ∧ ∀ c ∈ word, c.isAlphanum = true ∨ c ∈ "_+#.-".toList
  lines : ∀ line ∈ body, '\n' ∉ line ∧ '\r' ∉ line
  unclosed : ∀ line ∈ body, ¬Closes marker length line

variable {marker c : Char} {length indent columns : Nat} {language : Option (List Char)} {body : List (List Char)}
  {word line text rest : List Char}

theorem eq_of_dropIndent? (dropped : dropIndent? columns line = some text) :
    ∃ indent ≤ columns, line = List.replicate indent ' ' ++ text := by
  fun_induction dropIndent? columns line with
  | case1 columns =>
    cases dropped
    exact ⟨0, Nat.zero_le _, rfl⟩
  | case2 => cases dropped
  | case3 c rest solid =>
    cases dropped
    exact ⟨0, Nat.zero_le _, rfl⟩
  | case4 columns rest ih =>
    obtain ⟨indent, bound, rfl⟩ := ih dropped
    exact ⟨indent + 1, Nat.succ_le_succ bound, rfl⟩
  | case5 => cases dropped
  | case6 columns c rest =>
    cases dropped
    exact ⟨0, Nat.zero_le _, rfl⟩

theorem dropIndent?_spaces (bound : indent ≤ columns) (solid : c ≠ ' ' ∧ c ≠ '\t') :
    dropIndent? columns (List.replicate indent ' ' ++ c :: rest) = some (c :: rest) := by
  induction indent generalizing columns with
  | zero => cases columns <;> simp [dropIndent?, solid]
  | succ indent ih =>
    cases columns with
    | zero => exact absurd bound (Nat.not_succ_le_zero _)
    | succ columns => simpa [dropIndent?, List.replicate_succ] using ih (Nat.le_of_succ_le_succ bound)

theorem solid_of_marks (marks : marker = '\x60' ∨ marker = '~') :
    isBlank marker = false ∧ marker ≠ ' ' ∧ marker ≠ '\t' := by
  rcases marks with rfl | rfl <;> decide

/-- The lines that close a fence are those of its marker, as long as the fence or longer. -/
theorem Fence.closedBy_iff {fence : Fence} (marks : fence.marker = '\x60' ∨ fence.marker = '~')
    (long : 0 < fence.length) : fence.closedBy line = true ↔ Closes fence.marker fence.length line := by
  obtain ⟨-, space, tab⟩ := solid_of_marks marks
  rw [Fence.closedBy, Option.any_eq_true]
  constructor
  · rintro ⟨text, dropped, closed⟩
    obtain ⟨indent, bound, rfl⟩ := eq_of_dropIndent? dropped
    simp only [Bool.and_eq_true, decide_eq_true_eq, List.all_eq_true] at closed
    have run := takeWhile_eq_replicate fence.marker text
    refine ⟨indent, _, text.drop (text.takeWhile (· = fence.marker)).length, bound, closed.1, ?_, ?_⟩
    · intro c member
      simpa [isSpaceOrTab] using closed.2 c member
    · rw [← run, drop_takeWhile, List.takeWhile_append_dropWhile]
  · rintro ⟨indent, count, blanks, bound, longer, spacing, rfl⟩
    have run : (List.replicate count fence.marker ++ blanks).takeWhile (· = fence.marker) =
        List.replicate count fence.marker := by
      apply takeWhile_replicate_append
      intro c member same
      rcases spacing c (List.mem_of_mem_head? member) with rfl | rfl
      · exact space same.symm
      · exact tab same.symm
    have dropped : dropIndent? maxIndent (List.replicate indent ' ' ++ (List.replicate count fence.marker ++ blanks)) =
        some (List.replicate count fence.marker ++ blanks) := by
      obtain ⟨more, rfl⟩ := Nat.exists_eq_succ_of_ne_zero (Nat.ne_of_gt (Nat.lt_of_lt_of_le long longer))
      exact dropIndent?_spaces bound ⟨space, tab⟩
    refine ⟨_, dropped, ?_⟩
    simp only [run, List.length_replicate, List.drop_left', Bool.and_eq_true, decide_eq_true_eq, List.all_eq_true]
    exact ⟨longer, fun c member => by simpa [isSpaceOrTab] using spacing c member⟩

theorem Fence.read?_of_isOpener {info : List Char} (opener : IsOpener fence info line) :
    Fence.read? line = some fence := by
  obtain ⟨rfl, indented, marks, long, ended, plain, named⟩ := opener
  obtain ⟨-, space, tab⟩ := solid_of_marks marks
  obtain ⟨indent, marker, length, language⟩ := fence
  obtain ⟨more, rfl⟩ := Nat.exists_eq_add_of_le' long
  have run : (List.replicate (more + 3) marker ++ info).takeWhile (· = marker) = List.replicate (more + 3) marker := by
    apply takeWhile_replicate_append
    rintro c member rfl
    exact ended member
  have dropped : dropIndent? maxIndent (List.replicate indent ' ' ++ (List.replicate (more + 3) marker ++ info)) =
      some (List.replicate (more + 3) marker ++ info) := dropIndent?_spaces indented ⟨space, tab⟩
  have head : (List.replicate (more + 3) marker ++ info).head? = some marker := rfl
  have width : (List.replicate indent ' ' ++ (List.replicate (more + 3) marker ++ info)).length -
      (List.replicate (more + 3) marker ++ info).length = indent := by simp
  simp only [Fence.read?, dropped, head, run, List.length_replicate, List.drop_left', width, Option.bind_eq_bind,
    Option.bind_some]
  rw [if_pos ⟨marks, long, plain⟩, ← named]

/-- The reader of fences reads the lines that open a block. -/
theorem Fence.read?_eq_some_iff : Fence.read? line = some fence ↔ Opens fence line := by
  constructor
  · intro read
    simp only [Fence.read?, Option.bind_eq_bind, Option.bind_eq_some_iff] at read
    obtain ⟨text, dropped, marker, head, read⟩ := read
    split at read
    · rename_i fits
      cases read
      obtain ⟨indent, bound, rfl⟩ := eq_of_dropIndent? dropped
      have width : (List.replicate indent ' ' ++ text).length - text.length = indent := by simp
      have run := takeWhile_eq_replicate marker text
      refine ⟨text.drop (text.takeWhile (· = marker)).length, ?_, ?_, fits.1, fits.2.1, ?_, fits.2.2, rfl⟩
      · rw [width, ← run, drop_takeWhile, List.takeWhile_append_dropWhile]
      · exact width.trans_le bound
      · intro member
        have stops := List.head?_dropWhile_not (fun c => decide (c = marker)) text
        rw [drop_takeWhile, Option.mem_def] at member
        simp [member] at stops
    · cases read
  · rintro ⟨info, opener⟩
    exact read?_of_isOpener opener

/-- A line closes a fence that an opening line is read as if it has its marker as often. -/
theorem Opens.closedBy_iff (opens : Opens fence line) {later : List Char} :
    fence.closedBy later = true ↔ Closes fence.marker fence.length later := by
  obtain ⟨info, opener⟩ := opens
  exact Fence.closedBy_iff opener.marks (Nat.lt_of_lt_of_le (by decide) opener.long)

theorem Opens.not_closes (opens : Opens fence line) {later : List Char} (unclosed : fence.closedBy later = false) :
    ¬Closes fence.marker fence.length later := by
  rw [← opens.closedBy_iff, unclosed]
  exact Bool.false_ne_true

theorem dropSpaces_zero (line : List Char) : Fence.dropSpaces 0 line = line := by
  unfold Fence.dropSpaces
  rfl

/-- Characters that end a fence or that are escaped in attributes. -/
def fenceSpecials : List Char := ['\x60', '~', '&', '<', '>', '"']

/-- The characters of a language are neither blank nor special. -/
theorem facts_of_languageChar (fits : c.isAlphanum = true ∨ c ∈ "_+#.-".toList) :
    Fence.isLanguageChar c = true ∧ isBlank c = false ∧ c ∉ fenceSpecials := by
  rcases fits with word | sign
  · refine ⟨by simp [Fence.isLanguageChar, word], ?_, ?_⟩
    · rw [Bool.eq_false_iff]
      intro blank
      exact absurd word (by simp [not_isAlphanum_of_isBlank blank])
    · intro special
      exact absurd word ((by decide : ∀ c ∈ fenceSpecials, ¬c.isAlphanum = true) c special)
  · exact (by decide : ∀ c ∈ "_+#.-".toList,
      Fence.isLanguageChar c = true ∧ isBlank c = false ∧ c ∉ fenceSpecials) c sign

namespace IsFenced

/-- The language after a fence is read. -/
theorem language?_eq (fenced : IsFenced marker length language body) :
    Fence.language? (language.getD []) = language := by
  cases language with
  | none => rfl
  | some word =>
    obtain ⟨nonempty, fits⟩ := fenced.named word rfl
    obtain ⟨c, rest, rfl⟩ := List.exists_cons_of_ne_nil nonempty
    have whole : (c :: rest).takeWhile (fun c => !isBlank c) = c :: rest := by
      rw [List.takeWhile_eq_self_iff]
      intro d member
      simp [(facts_of_languageChar (fits d member)).2.1]
    have named : (c :: rest).all Fence.isLanguageChar = true :=
      List.all_eq_true.mpr fun d member => (facts_of_languageChar (fits d member)).1
    have start : (c :: rest).dropWhile isBlank = c :: rest :=
      List.dropWhile_cons_of_neg (by simp [(facts_of_languageChar (fits c List.mem_cons_self)).2.1])
    rw [Option.getD_some, Fence.language?, start, whole, named]
    rfl

/-- A fence with a language is read. -/
theorem read?_eq (fenced : IsFenced marker length language body) :
    Fence.read? (fenceLine marker length language) = some ⟨0, marker, length, language⟩ := by
  have other : ∀ c ∈ (language.getD []), c ∉ fenceSpecials := by
    cases language with
    | none => simp
    | some word => exact fun c member => (facts_of_languageChar ((fenced.named word rfl).2 c member)).2.2
  have special : marker ∈ fenceSpecials := by
    rcases fenced.marks with rfl | rfl <;> decide
  have opener : IsOpener ⟨0, marker, length, language⟩ (language.getD []) (fenceLine marker length language) := {
    written := rfl
    indented := Nat.zero_le _
    marks := fenced.marks
    long := fenced.long
    ended := fun member => other marker (List.mem_of_mem_head? member) special
    plain := fun member => other _ member (by decide)
    named := fenced.language?_eq.symm }
  exact Fence.read?_of_isOpener opener

/-- A fence holds no blanks. -/
theorem solid_fenceLine (fenced : IsFenced marker length language body) :
    ∀ c ∈ fenceLine marker length language, isBlank c = false := by
  refine List.forall_mem_append.mpr ⟨fun c member => ?_, ?_⟩
  · rw [List.eq_of_mem_replicate member]
    exact (solid_of_marks fenced.marks).1
  · cases language with
    | none => simp
    | some word => exact fun c member => (facts_of_languageChar ((fenced.named word rfl).2 c member)).2.1

/-- A fence without a language encloses the same lines. -/
theorem unnamed (fenced : IsFenced marker length language body) : IsFenced marker length none body :=
  { fenced with named := by simp }

/-- The lines of a fenced text. -/
theorem lines_eq (fenced : IsFenced marker length language body) : Text.lines (fencedText marker length language body) =
    fenceLine marker length language :: (body ++ [fenceLine marker length none]) := by
  have ends (language : Option (List Char)) (fenced : IsFenced marker length language body) :
      '\n' ∉ fenceLine marker length language ∧ '\r' ∉ fenceLine marker length language :=
    ⟨fun member => absurd (fenced.solid_fenceLine _ member) (by decide),
      fun member => absurd (fenced.solid_fenceLine _ member) (by decide)⟩
  apply lines_joinWith (by simp)
  refine List.forall_mem_cons.mpr ⟨ends language fenced, List.forall_mem_append.mpr ⟨fenced.lines, ?_⟩⟩
  exact List.forall_mem_singleton.mpr (ends none fenced.unnamed)

/-- A fenced text is not blank. -/
theorem filled (fenced : IsFenced marker length language body) :
    isBlankLine (fencedText marker length language body) = false := by
  obtain ⟨solid, -⟩ := solid_of_marks fenced.marks
  obtain ⟨more, rfl⟩ := Nat.exists_eq_add_of_le' fenced.long
  obtain ⟨next, others, rest⟩ : ∃ next others, body ++ [fenceLine marker (more + 3) none] = next :: others :=
    List.exists_cons_of_ne_nil (by simp)
  rw [fencedText, rest, joinWith, fenceLine, List.replicate_succ]
  simp [isBlankLine, solid]

/-- A fenced text is one block. -/
theorem readDocument_eq (fenced : IsFenced marker length language body) :
    readDocument (fencedText marker length language body) = [.code language body] := by
  have positive : 0 < length := Nat.lt_of_lt_of_le (by decide) fenced.long
  have closed : Fence.closedBy ⟨0, marker, length, language⟩ (fenceLine marker length none) = true :=
    (Fence.closedBy_iff fenced.marks positive).mpr ⟨0, length, [], by decide, Nat.le_refl _, by simp, rfl⟩
  have unclosed : ∀ line ∈ body, Fence.closedBy ⟨0, marker, length, language⟩ line = false := by
    intro line member
    rw [Bool.eq_false_iff, ne_eq, Fence.closedBy_iff fenced.marks positive]
    exact fenced.unclosed line member
  have kept : body.map (Fence.dropSpaces 0) = body := List.map_id'' dropSpaces_zero body
  have taken : Fence.body? ⟨0, marker, length, language⟩ (body ++ [fenceLine marker length none]) = some (body, []) :=
    Fence.body?_eq_some_iff.mpr ⟨body, _, rfl, unclosed, closed, kept.symm⟩
  have block : codeBlock? true (fenceLine marker length language) (body ++ [fenceLine marker length none]) =
      some (.code language body, []) := by
    simp [codeBlock?, fencedBlock?, fenced.read?_eq, taken]
  have folded : foldCode (fenceLine marker length language :: (body ++ [fenceLine marker length none])) =
      [.done (.code language body)] := by
    rw [foldCode, foldCodeFrom, block]
    simp [foldCodeFrom]
  rw [readDocument, fenced.lines_eq, folded, markAllQuotes, if_neg (by simp [Line.quoted?, Line.raw?]), readBlocks,
    readBlocks]

/-- The HTML of a fenced text is that of the block. -/
theorem render_eq (fenced : IsFenced marker length language body) :
    render (fencedText marker length language body) = Block.html (.code language body) := by
  rw [render, fenced.readDocument_eq]
  rfl

end IsFenced

end PostMarkup.Markdown
