import PostMarkup.Proofs.Markdown.Unsplit

/-! # Delimited lines

A delimiter that touches a text on both sides, where the text does not hold its marker and does not end
with a backslash, opens before the text and closes nowhere but after it, and no other delimiter opens
in its place. The text is then read as a line of its own, whatever it holds.
-/

namespace PostMarkup.Markdown

open PostMarkup.Text PostMarkup.Unicode

namespace Delimiter

variable {delimiter other : Delimiter} {content : List Char} {c : Char}

/-- Whether a text stands as the content of a delimiter: it starts and ends with no blank, does not end
with a backslash and holds no marker of the delimiter. -/
structure Encloses (delimiter : Delimiter) (content : List Char) : Prop where
  filled : content ≠ []
  first : ∀ c ∈ content.head?, isBlank c = false
  last : ∀ c ∈ content.getLast?, isBlank c = false ∧ c ≠ '\\'
  free : delimiter.marker ∉ content

/-- Where its marker does not stand a delimiter does not close. -/
theorem closes_of_ne (differs : c ≠ delimiter.marker) (previous : Char) (rest : List Char) :
    delimiter.closes previous (c :: rest) = false := by
  simp [closes, written_eq, Ne.symm differs]

theorem closes_written {previous : Char} (touches : isBlank previous = false ∧ previous ≠ '\\')
    (differs : previous ≠ delimiter.marker) : delimiter.closes previous delimiter.written = true := by
  simp [closes, touches, differs]

/-- A delimiter closes first behind a text without its marker. -/
theorem untilCloser?_written {previous : Char} (free : delimiter.marker ∉ content)
    (touches : isBlank (content.getLast?.getD previous) = false ∧ content.getLast?.getD previous ≠ '\\')
    (differs : previous ≠ delimiter.marker) :
    delimiter.untilCloser? previous (content ++ delimiter.written) = some content.length := by
  induction content generalizing previous with
  | nil =>
    have closed : delimiter.closes previous delimiter.written = true := closes_written touches differs
    rw [written_eq] at closed ⊢
    rw [List.nil_append, untilCloser?, if_pos closed]
    rfl
  | cons c rest ih =>
    obtain ⟨other, further⟩ := List.ne_and_not_mem_of_not_mem_cons free
    have last : (c :: rest).getLast?.getD previous = rest.getLast?.getD c := by
      rw [List.getLast?_cons, Option.getD_some]
    rw [last] at touches
    rw [List.cons_append, untilCloser?, if_neg (by simp [closes_of_ne other.symm]), ih further touches other.symm]
    rfl

theorem contentLength?_written (encloses : delimiter.Encloses content) :
    delimiter.contentLength? (content ++ delimiter.written) = some content.length := by
  obtain ⟨c, rest, rfl⟩ := List.exists_cons_of_ne_nil encloses.filled
  obtain ⟨other, further⟩ := List.ne_and_not_mem_of_not_mem_cons encloses.free
  have touches := encloses.last (rest.getLast?.getD c) (by rw [List.getLast?_cons, Option.mem_def])
  rw [List.cons_append, contentLength?, untilCloser?_written further touches other.symm]
  rfl

theorem opens_written (encloses : delimiter.Encloses content) :
    delimiter.opens none (delimiter.written ++ (content ++ delimiter.written)) = true := by
  obtain ⟨c, rest, rfl⟩ := List.exists_cons_of_ne_nil encloses.filled
  obtain ⟨other, _⟩ := List.ne_and_not_mem_of_not_mem_cons encloses.free
  simp [opens, encloses.first c rfl, other.symm]

/-- In front of its content no other delimiter opens in the place of a delimiter. -/
theorem opens_of_ne (known : delimiter ∈ all) (known' : other ∈ all) (differs : other ≠ delimiter)
    (encloses : delimiter.Encloses content) (after : List Char) :
    other.opens none (delimiter.written ++ (content ++ after)) = false := by
  have single : ∀ left ∈ all, ∀ right ∈ all, left.marker = right.marker → left.double = right.double →
      left = right := by decide
  obtain ⟨c, rest, rfl⟩ := List.exists_cons_of_ne_nil encloses.filled
  obtain ⟨unmarked, _⟩ := List.ne_and_not_mem_of_not_mem_cons encloses.free
  by_cases marker : other.marker = delimiter.marker
  · have width : other.double ≠ delimiter.double := fun same =>
      differs (single other known' delimiter known marker same)
    cases double : delimiter.double with
    | false =>
      -- a double delimiter would hold the first character of the content
      have double' : other.double = true := by simpa [double] using width
      simp [opens, written_eq, double, double', marker, unmarked]
    | true =>
      -- a single delimiter would be doubled
      have double' : other.double = false := by simpa [double] using width
      simp [opens, written_eq, double, double', marker]
  · simp [opens, written_eq, marker]

end Delimiter

variable {delimiter : Delimiter} {content : List Char}

theorem styledStep?_written (known : delimiter ∈ Delimiter.all) (encloses : delimiter.Encloses content) :
    styledStep? none (delimiter.written ++ (content ++ delimiter.written)) =
      some (.styled delimiter.style delimiter.written.length content.length) := by
  obtain ⟨before, after, whole, apart⟩ := List.eq_append_cons_of_mem known
  refine List.findSome?_eq_some_iff.mpr ⟨before, delimiter, after, whole, ?_, ?_⟩
  · rw [if_pos (Delimiter.opens_written encloses)]
    simp only [List.drop_left, Delimiter.contentLength?_written encloses, Option.map_some]
  · intro other earlier
    have known' : other ∈ Delimiter.all := whole ▸ List.mem_append_left _ earlier
    have differs : other ≠ delimiter := fun same => apart (same ▸ earlier)
    exact if_neg (by simp [Delimiter.opens_of_ne known known' differs encloses])

/-- No construct but a style starts with a delimiter. -/
theorem step_marker (known : delimiter ∈ Delimiter.all) (rest : List Char) :
    step none delimiter.marker rest =
      (styledStep? none (delimiter.marker :: rest)).getD (.whole (.text [delimiter.marker]) 1) := by
  have marks : ∀ delimiter ∈ Delimiter.all, delimiter.marker ∉ "\\\x60[".toList ∧ delimiter.marker ≠ '!' ∧
      delimiter.marker.toLower ≠ 'h' := by decide
  obtain ⟨plain, noImage, small⟩ := marks delimiter known
  have address : bareAddress? none (delimiter.marker :: rest) = none :=
    Option.eq_none_iff_forall_ne_some.mpr fun _ read => small (toLower_of_bareAddress? read)
  rw [step_of_plain plain fun image => absurd image noImage, address]
  rfl

/-- A line of a text between a delimiter on either side is the text in the style of the delimiter, and
the text is read as on its own. -/
theorem renderLine_delimited (known : delimiter ∈ Delimiter.all) (encloses : delimiter.Encloses content) :
    renderLine (delimiter.written ++ content ++ delimiter.written) =
      writeElement delimiter.style.element (renderLine content) := by
  have styled := styledStep?_written known encloses
  obtain ⟨more, shape⟩ : ∃ more, delimiter.marker :: more = delimiter.written ++ (content ++ delimiter.written) := by
    rw [Delimiter.written_eq]
    exact ⟨_, rfl⟩
  rw [← shape] at styled
  have found := (step_marker known more).trans (congrArg (Option.getD · _) styled)
  have after : (content ++ delimiter.written).drop (content.length + delimiter.written.length) = [] :=
    List.drop_eq_nil_of_le (by simp)
  rw [renderLine, inlines, List.append_assoc, ← shape, inlinesFrom_delimited known shape found, List.take_left, after,
    inlinesFrom, Inline.htmlOf_cons, Inline.htmlOf_nil, List.append_nil, Inline.html, renderLine, inlines]

/-- Underlined text that holds emphasis, an address and delimiters that are not closed. -/
theorem renderLine_delimited_underline :
    Delimiter.Encloses ⟨'+', true, .underline⟩ "*a* [b https://c.d/_e ~~f".toList ∧
      renderLine "*a* [b https://c.d/_e ~~f".toList = "<em>a</em> [b https://c.d/_e ~~f".toList ∧
      renderLine ("++".toList ++ "*a* [b https://c.d/_e ~~f".toList ++ "++".toList) =
        "<u><em>a</em> [b https://c.d/_e ~~f</u>".toList := by
  have encloses : Delimiter.Encloses ⟨'+', true, .underline⟩ "*a* [b https://c.d/_e ~~f".toList :=
    { filled := by decide, first := by rintro _ ⟨⟩; decide, last := by rintro _ ⟨⟩; decide, free := by decide }
  have inner : renderLine "*a* [b https://c.d/_e ~~f".toList = "<em>a</em> [b https://c.d/_e ~~f".toList := by
    decide +kernel
  have whole := renderLine_delimited (by decide) encloses
  rw [inner] at whole
  exact ⟨encloses, inner, whole.trans rfl⟩

end PostMarkup.Markdown
