import Mathlib.Data.List.Forall2
import PostMarkup.Proofs.Layout.Nested
import PostMarkup.Proofs.PlainText.Shown

/-! # The text of paragraphs

Text with links in it holds no blocks, so it is laid out as paragraphs. Cutting it at its line feeds
cuts the text that it shows, and a line is blank exactly when its text is. What the paragraphs show
are the lines that are not blank, each with a line feed after it.
-/

namespace PostMarkup

open PostMarkup.Text PostMarkup.Layout PostMarkup.Link PostMarkup.PlainText

variable {html text : List Char}

/-- A character, or a tag of a link. -/
def Piece.IsLinkPart : Piece → Prop
  | .char c => c ≠ '<'
  | .tag written => written.IsPlain ∧ written.name ∈ linkNames

namespace Shows

/-- Text with links in it consists of characters and of the tags of links. -/
theorem linkPart_of_mem_pieces (shows : Shows html text) : ∀ part ∈ pieces html, part.IsLinkPart := by
  induction shows with
  | nil => simp
  | @char c _ _ _ ih =>
    rw [pieces_of_not_mem (not_mem_escapeChar c).1]
    refine List.forall_mem_append.mpr ⟨?_, ih⟩
    simp only [List.mem_map]
    rintro _ ⟨d, member, rfl⟩ rfl
    exact (not_mem_escapeChar c).1 member
  | tag plain named _ ih =>
    rw [pieces_of_isWritten plain.isWritten]
    exact List.forall_mem_cons.mpr ⟨⟨plain, named⟩, ih⟩

theorem name_of_mem_pieces (shows : Shows html text) {tag : Tag} (member : .tag tag ∈ pieces html) :
    tag.name ∈ linkNames := by
  have part : tag.IsPlain ∧ tag.name ∈ linkNames := shows.linkPart_of_mem_pieces _ member
  exact part.2

/-- The tags of links start no blocks. -/
theorem ignored (shows : Shows html text) : ∀ tag, .tag tag ∈ pieces html → blockElements.Ignores tag := by
  intro tag member
  have names : ∀ name ∈ linkNames, blockElements.isVoid name = false ∧ blockElements.isNormal name = false := by
    decide
  exact .inr (names _ (shows.name_of_mem_pieces member))

theorem last_of_plain {tag : Tag} (plain : tag.IsPlain) : tag.source.getLast? ≠ some '\r' := by
  rw [plain.isWritten.getLast?_source]
  decide

/-- Without carriage returns no line end is of two characters. -/
theorem replaceAll_eq (shows : Shows html text) (returns : '\r' ∉ text) :
    replaceAll ['\r', '\n'] ['\n'] html = html := by
  induction shows with
  | nil => simp [replaceAll]
  | @char c _ _ _ ih =>
    simp only [List.mem_cons, not_or] at returns
    rw [replaceAll_append_of_not_mem (lineEnd_not_mem_escapeChar (.inl rfl) returns.1), ih returns.2]
  | @tag tag _ _ plain _ _ ih =>
    rw [replaceAll_lineEnd_append (mt And.left (last_of_plain plain)), replaceAll_lineEnd_of_line plain.newline_not_mem,
      ih returns]

/-- Each of its lines is text with links in it. -/
theorem of_mem_linesOf (shows : Shows html text) : ∀ line ∈ linesOf html, ∃ text, Shows line text := by
  induction shows with
  | nil =>
    rw [linesOf_nil]
    exact List.forall_mem_singleton.mpr ⟨[], .nil⟩
  | @char c html _ _ ih =>
    rcases escapeChar_eq c with own | other
    · rw [own, List.singleton_append]
      exact forall_mem_linesOf_cons ⟨[], .nil⟩ (fun _ _ ⟨text, shown⟩ => ⟨c :: text, shown.own own⟩) ih
    · have lineEnds : '\r' ≠ c ∧ '\n' ≠ c := by
        rcases other with ⟨rfl, _⟩ | ⟨rfl, _⟩ | ⟨rfl, _⟩
        all_goals decide
      have returns : '\r' ∉ escapeChar c := lineEnd_not_mem_escapeChar (.inl rfl) lineEnds.1
      have newlines : '\n' ∉ escapeChar c := lineEnd_not_mem_escapeChar (.inr rfl) lineEnds.2
      have apart : ¬((escapeChar c).getLast? = some '\r' ∧ html.head? = some '\n') :=
        fun both => returns (List.mem_of_getLast? both.1)
      exact forall_mem_linesOf_append newlines apart (fun _ ⟨text, shown⟩ => ⟨c :: text, shown.char⟩) ih
  | tag plain named _ ih =>
    exact forall_mem_linesOf_append plain.newline_not_mem (mt And.left (last_of_plain plain))
      (fun _ ⟨text, shown⟩ => ⟨text, shown.tag plain named⟩) ih

/-- No line break ends text with links in it. -/
theorem not_lineBreak (shows : Shows html text) : ¬lineBreak <:+ html := by
  rintro ⟨before, whole⟩
  have parts := shows.linkPart_of_mem_pieces
  have written : ∀ part ∈ pieces html, part.IsWritten := by
    intro part member
    have given := parts part member
    cases part with
    | char c => exact given
    | tag tag => exact given.1.isWritten
  -- the `<` of a line break would start one of the tags of links
  have source : sourceOf (pieces html) = before ++ '<' :: "br />".toList := by
    rw [source_pieces, ← whole]
    rfl
  obtain ⟨tag, member, read⟩ :=
    read?_of_sourceOf written (fun tag member => (parts _ member).1.isCompact) source
  have other : ∀ tag ∈ Tag.read? ('<' :: "br />".toList), tag.name ∉ linkNames := by decide
  exact other tag read (parts _ member).2

end Shows

/-- Escaped text and links, each of which shows a part of a line that is not blank. -/
inductive LinkedText : List Char → List Char → Prop
  | nil : LinkedText [] []
  | char {c : Char} {html text : List Char} : LinkedText html text →
      LinkedText (escapeChar c ++ html) (c :: text)
  | link {front word html text : List Char} : Shows front word → '\n' ∉ word → isBlankLine word = false →
      LinkedText html text → LinkedText (front ++ html) (word ++ text)

theorem isBlankLine_append (left right : List Char) :
    isBlankLine (left ++ right) = (isBlankLine left && isBlankLine right) := by
  simp [isBlankLine]

theorem isBlankLine_escapeChar (c : Char) : isBlankLine (escapeChar c) = isBlank c := by
  rcases escapeChar_eq c with own | ⟨rfl, _⟩ | ⟨rfl, _⟩ | ⟨rfl, _⟩
  · simp [own, isBlankLine]
  all_goals decide

namespace Shows

theorem newline_not_mem (shows : Shows html text) (line : '\n' ∉ text) : '\n' ∉ html := by
  induction shows with
  | nil => simp
  | @char c _ _ _ ih =>
    simp only [List.mem_cons, not_or] at line
    exact List.not_mem_append (lineEnd_not_mem_escapeChar (.inr rfl) line.1) (ih line.2)
  | tag plain _ _ ih => exact List.not_mem_append plain.newline_not_mem (ih line)

/-- Blank markup shows blank text. -/
theorem blank (shows : Shows html text) (blank : isBlankLine html = true) : isBlankLine text = true := by
  induction shows with
  | nil => rfl
  | @char c _ _ _ ih =>
    rw [isBlankLine_append, isBlankLine_escapeChar, Bool.and_eq_true] at blank
    rw [← List.singleton_append, isBlankLine_append, ih blank.2]
    simp [isBlankLine, blank.1]
  | tag _ _ _ ih =>
    rw [isBlankLine_append, Bool.and_eq_true] at blank
    exact ih blank.2

end Shows

namespace LinkedText

theorem shows (linked : LinkedText html text) : Shows html text := by
  induction linked with
  | nil => exact .nil
  | char _ ih => exact .char ih
  | link shows _ _ _ ih => exact shows.append ih

/-- A line is blank exactly when the text that it shows is blank. -/
theorem isBlankLine_eq (linked : LinkedText html text) : isBlankLine html = isBlankLine text := by
  induction linked with
  | nil => rfl
  | @char c _ _ _ ih =>
    rw [isBlankLine_append, isBlankLine_escapeChar, ih]
    rfl
  | link shows _ filled _ _ =>
    have filled' := mt shows.blank (by simp [filled])
    simp [isBlankLine_append, filled, filled']

/-- Cutting at line feeds cuts the text that is shown. -/
theorem lines (linked : LinkedText html text) :
    List.Forall₂ LinkedText (splitAt '\n' html) (splitAt '\n' text) := by
  have later {front word html text : List Char} (clean : '\n' ∉ front) (clean' : '\n' ∉ word)
      (grows : ∀ html text, LinkedText html text → LinkedText (front ++ html) (word ++ text))
      (lines : List.Forall₂ LinkedText (splitAt '\n' html) (splitAt '\n' text)) :
      List.Forall₂ LinkedText (splitAt '\n' (front ++ html)) (splitAt '\n' (word ++ text)) := by
    obtain ⟨first, others, found, split⟩ := splitAt_append clean html
    obtain ⟨first', others', found', split'⟩ := splitAt_append clean' text
    rw [found, found'] at lines
    rw [split, split']
    cases lines with
    | cons head tail => exact .cons (grows _ _ head) tail
  -- a front without line feeds belongs to the first line of what follows it
  induction linked with
  | nil => exact .cons .nil .nil
  | @char c html text _ ih =>
    by_cases newline : c = '\n'
    · subst newline
      exact .cons .nil ih
    · have clean : '\n' ∉ escapeChar c := Shows.lineEnd_not_mem_escapeChar (.inr rfl) (Ne.symm newline)
      have clean' : '\n' ∉ [c] := by simpa using Ne.symm newline
      exact later clean clean' (fun _ _ => .char) ih
  | link shows line filled _ ih =>
    exact later (shows.newline_not_mem line) line (fun _ _ => .link shows line filled) ih

end LinkedText

namespace Layout

/-- No paragraph is empty. -/
theorem ne_nil_of_mem_paragraphs {lines paragraph : List (List Char)} (member : paragraph ∈ paragraphs lines) :
    paragraph ≠ [] := by
  fun_induction paragraphs lines with
  | case1 => simp at member
  | case2 line blank => simp at member
  | case3 line filled => simp_all
  | case4 line next rest blank ih => exact ih member
  | case5 line next rest filled blank ih =>
    rcases List.mem_cons.mp member with rfl | member
    · simp
    · exact ih member
  | case6 line next rest filled filled' first others found ih =>
    rw [found] at ih
    rcases List.mem_cons.mp member with rfl | member
    · simp
    · exact ih (List.mem_cons_of_mem _ member)
  | case7 line next rest filled filled' none ih => simp_all

/-- Lines with a line feed between every two of them, and one after the last. -/
theorem joinWith_newline {lines : List (List Char)} (nonempty : lines ≠ []) :
    joinWith '\n' lines ++ ['\n'] = lines.flatMap (· ++ ['\n']) := by
  fun_induction joinWith '\n' lines with
  | case1 => exact absurd rfl nonempty
  | case2 => simp
  | case3 line next others ih => simp [← ih]

end Layout

namespace PlainText

/-- The lines of a text that are not blank, each with a line feed after it. -/
def filledLines (text : List Char) : List Char :=
  ((splitAt '\n' text).filter fun line => !isBlankLine line).flatMap (· ++ ['\n'])

/-- Whether a line is text with links in it and not blank. -/
def IsFilledLine (line : List Char) : Prop := isBlankLine line = false ∧ ∃ text, Shows line text

variable {lines : List (List Char)}

/-- What is left of the lines of a paragraph and its closing tag. -/
theorem textFrom_joinLines (nonempty : lines ≠ []) (filled : ∀ line ∈ lines, IsFilledLine line) (inRun : Bool)
    (rest : List Char) : textFrom inRun (joinLines lines ++ ("</p>".toList ++ rest)) =
      due inRun ++ (joinWith '\n' (lines.map withoutTags) ++ textFrom true rest) := by
  have each (line : List Char) (filled : IsFilledLine line) (inRun : Bool) (rest : List Char) :
      textFrom inRun (line ++ rest) = due inRun ++ (withoutTags line ++ textFrom false rest) := by
    obtain ⟨unblank, text, shows⟩ := filled
    apply shows.textFrom_eq_of_ne
    rintro rfl
    exact absurd unblank (by decide)
  fun_induction joinLines lines generalizing inRun with
  | case1 => exact absurd rfl nonempty
  | case2 line =>
    rw [each line (filled line List.mem_cons_self), textFrom_lineEnd (by decide)]
    rfl
  | case3 line next others ih =>
    obtain ⟨first, further⟩ := List.forall_mem_cons.mp filled
    obtain ⟨text, shows⟩ := first.2
    have unbroken : lineBreak.isSuffixOf line = false := by
      rw [Bool.eq_false_iff]
      exact fun ends => shows.not_lineBreak (List.isSuffixOf_iff_suffix.mp ends)
    -- the line feed that is due after the break comes before the next line
    have later := ih (by simp) further true
    simp only [unbroken, Bool.false_eq_true, if_false, List.append_assoc]
    rw [each line (filled line List.mem_cons_self), textFrom_lineEnd (by decide), later]
    simp [joinWith, due]

theorem textFrom_paragraph (nonempty : lines ≠ []) (filled : ∀ line ∈ lines, IsFilledLine line) (inRun : Bool)
    (rest : List Char) : textFrom inRun ("<p>".toList ++ joinLines lines ++ "</p>".toList ++ rest) =
      due inRun ++ (joinWith '\n' (lines.map withoutTags) ++ textFrom true rest) := by
  have opening : "<p>".toList = (Tag.opening paragraphName []).source := by decide
  have plain : (Tag.opening paragraphName []).IsPlain := .opening (by decide) (by simp)
  rw [List.append_assoc, List.append_assoc, opening, textFrom_tag plain (by decide),
    textFrom_joinLines nonempty filled]
  rfl

/-- What is left of paragraphs are their lines, each with a line feed after it. -/
theorem textFrom_paragraphs {list : List (List (List Char))} (nonempty : ∀ lines ∈ list, lines ≠ [])
    (filled : ∀ lines ∈ list, ∀ line ∈ lines, IsFilledLine line) (inRun : Bool) :
    textFrom inRun (list.flatMap fun lines => "<p>".toList ++ joinLines lines ++ "</p>".toList) =
      due inRun ++ list.flatten.flatMap fun line => withoutTags line ++ ['\n'] := by
  induction list generalizing inRun with
  | nil => simp [textFrom_nil]
  | cons lines others ih =>
    obtain ⟨nonempty, nonempty'⟩ := List.forall_mem_cons.mp nonempty
    obtain ⟨filled, filled'⟩ := List.forall_mem_cons.mp filled
    have closed := joinWith_newline (mt List.map_eq_nil_iff.mp nonempty : lines.map withoutTags ≠ [])
    have shown : lines.flatMap (fun line => withoutTags line ++ ['\n']) =
        joinWith '\n' (lines.map withoutTags) ++ ['\n'] := by
      rw [closed, List.flatMap_map]
    rw [List.flatMap_cons, textFrom_paragraph nonempty filled, ih nonempty' filled', List.flatten_cons,
      List.flatMap_append, shown, List.append_assoc]
    rfl

/-- The lines that are not blank are the same in the markup and in the text that it shows. -/
theorem flatMap_filled {htmls texts : List (List Char)} (lines : List.Forall₂ LinkedText htmls texts) :
    ((htmls.filter fun line => !isBlankLine line).flatMap fun line => withoutTags line ++ ['\n']) =
      escapeText ((texts.filter fun line => !isBlankLine line).flatMap (· ++ ['\n'])) := by
  induction lines with
  | nil => rfl
  | @cons html text _ _ linked _ ih =>
    have same := linked.isBlankLine_eq
    cases blank : isBlankLine text with
    | true =>
      rw [List.filter_cons_of_neg (by simp [same, blank]), List.filter_cons_of_neg (by simp [blank]), ih]
    | false =>
      rw [List.filter_cons_of_pos (by simp [same, blank]), List.filter_cons_of_pos (by simp [blank]),
        List.flatMap_cons, List.flatMap_cons, ih, linked.shows.withoutTags_eq, escapeText_append,
        escapeText_append]
      rfl

/-- The text of paragraphs of text with links in it: the lines that are not blank, each with a line feed
after it. -/
theorem ofHtml_inParagraphs (linked : LinkedText html text) (returns : '\r' ∉ text) :
    ofHtml (inParagraphs html) = filledLines text := by
  have each : ∀ line ∈ splitAt '\n' html, ∃ text, Shows line text :=
    ((List.forall₂_and_left _ _).mp (linked.lines.imp fun _ _ linked => ⟨⟨_, linked.shows⟩, linked⟩)).1
  have filled : ∀ lines ∈ paragraphs (splitAt '\n' html), ∀ line ∈ lines, IsFilledLine line := by
    intro lines member line inside
    have kept : line ∈ (paragraphs (splitAt '\n' html)).flatten := List.mem_flatten.mpr ⟨lines, member, inside⟩
    rw [flatten_paragraphs, List.mem_filter] at kept
    exact ⟨by simpa using kept.2, each line kept.1⟩
  have shown := textFrom_paragraphs (fun _ => ne_nil_of_mem_paragraphs) filled false
  rw [flatten_paragraphs, flatMap_filled linked.lines] at shown
  rw [inParagraphs_of_ignored linked.shows.ignored, wrap, linked.shows.replaceAll_eq returns]
  change unescape (textFrom false _) = _
  rw [shown]
  exact unescape_escapeText _

end PlainText

end PostMarkup
