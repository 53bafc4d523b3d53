import Mathlib.Data.List.Basic
import PostMarkup.Proofs.Markdown.Atom

/-! # Parts that styles do not split

A line is read past a code span, a link, an image or a bare address in one step, but the end of a
styled part is looked for among all characters. So such a part is kept whole behind other text if no
delimiter that opens there is first closed inside the part. If one is, the part is split.
-/

namespace PostMarkup.Markdown

open PostMarkup.Text PostMarkup.Unicode

variable {front lead atom after right : List Char} {previous : Option Char} {c : Char} {rest : List Char}

/-- A text in front of a part that is read whole: it ends with a blank, and no character of it is
escaped or starts a code span, a link, an image or an address. -/
structure IsLead (lead : List Char) : Prop where
  ends : EndsBlank lead
  plain : ∀ c ∈ lead, c ∉ "\\\x60[".toList
  apart : ∀ position < lead.length, bareAddress? (lead.take position).getLast? (lead.drop position) = none

/-- Whether a delimiter that opens in a text and does not close there closes in the text after it. -/
def ClosesIn (lead atom : List Char) : Prop :=
  ∃ delimiter ∈ Delimiter.all, ∃ position < lead.length,
    delimiter.opens (lead.take position).getLast? (lead.drop position) = true ∧
      delimiter.contentLength? (lead.drop (position + delimiter.written.length)) = none ∧
      (delimiter.contentLength? (lead.drop (position + delimiter.written.length) ++ atom)).isSome = true

instance (lead : List Char) : Decidable (IsLead lead) :=
  decidable_of_iff
    (EndsBlank lead ∧ lead.all (fun c => !"\\\x60[".toList.contains c) = true ∧
      ((List.range lead.length).all fun position =>
        (bareAddress? (lead.take position).getLast? (lead.drop position)).isNone) = true)
    ⟨fun ⟨ends, plain, apart⟩ => ⟨ends, by simpa using plain, by simpa using apart⟩,
      fun isLead => ⟨isLead.ends, by simpa using isLead.plain, by simpa using isLead.apart⟩⟩

instance (lead atom : List Char) : Decidable (ClosesIn lead atom) :=
  decidable_of_iff
    (Delimiter.all.any fun delimiter => (List.range lead.length).any fun position =>
      let inner := lead.drop (position + delimiter.written.length)
      delimiter.opens (lead.take position).getLast? (lead.drop position) &&
        (delimiter.contentLength? inner).isNone && (delimiter.contentLength? (inner ++ atom)).isSome)
    (by simp [ClosesIn, and_assoc])

/-- In front of a part that is read whole a step reads a styled part or a character. -/
theorem IsLead.step_append (isLead : IsLead (front ++ c :: rest))
    (apart : previous.any isAlphanumeric = front.getLast?.any isAlphanumeric) (right : List Char) :
    step previous c (rest ++ right) =
      (styledStep? previous (c :: (rest ++ right))).getD (.whole (.text [c]) 1) := by
  have ends : EndsBlank (c :: rest) := isLead.ends.of_append
  have noImage : c = '!' → (rest ++ right).head? ≠ some '[' := by
    rintro rfl bracket
    cases rest with
    | nil => exact absurd (ends '!' rfl) (by decide)
    | cons b others =>
      obtain rfl := Option.some.inj bracket
      exact isLead.plain '[' (by simp) (by decide)
  have address : bareAddress? previous (c :: (rest ++ right)) = none := by
    have unread := isLead.apart front.length (by simp)
    rw [List.take_left, List.drop_left] at unread
    rw [← List.cons_append, bareAddress?_append previous (List.cons_ne_nil c rest) (.inl ends),
      bareAddress?_congr apart, unread]
  rw [step_of_plain (isLead.plain c (by simp)) noImage, address]
  rfl

/-- A delimiter that opens in front of a blank stands there whole, with content after it. -/
theorem Delimiter.exists_content {delimiter : Delimiter} (known : delimiter ∈ Delimiter.all) (filled : lead ≠ [])
    (ends : EndsBlank lead) (opens : delimiter.opens previous (lead ++ right) = true) :
    ∃ inner, lead = delimiter.written ++ inner ∧ inner ≠ [] ∧ delimiter.opens previous lead = true := by
  rw [opens_append known filled (.inl ends)] at opens
  obtain ⟨inner, rfl⟩ := isPrefix_of_opens opens
  refine ⟨inner, rfl, ?_, opens⟩
  rintro rfl
  simp [Delimiter.opens] at opens

/-- A styled part is its content between its delimiters, and the line goes on after them. -/
theorem inlinesFrom_delimited {delimiter : Delimiter} (known : delimiter ∈ Delimiter.all) {inner : List Char}
    {style : Style} {length : Nat} (shape : c :: rest = delimiter.written ++ inner)
    (found : step previous c rest = .styled style delimiter.written.length length) :
    inlinesFrom previous (c :: rest) = .styled style (inlinesFrom none (inner.take length)) ::
      inlinesFrom (delimiter.written ++ inner.take (length + delimiter.written.length)).getLast?
        (inner.drop (length + delimiter.written.length)) := by
  have positive : 0 < delimiter.written.length := List.length_pos_iff.mpr (Delimiter.written_ne_nil known)
  have dropped (count : Nat) : rest.drop (delimiter.written.length + count - 1) = inner.drop count := by
    have whole : (c :: rest).drop (delimiter.written.length + count) = inner.drop count := by
      rw [shape, List.drop_append]
      simp
    rw [← whole, ← List.drop_succ_cons (a := c), Nat.sub_add_cancel (by omega)]
  have taken (count : Nat) : c :: rest.take (delimiter.written.length + count - 1) =
      delimiter.written ++ inner.take count := by
    have whole : (c :: rest).take (delimiter.written.length + count) = delimiter.written ++ inner.take count := by
      rw [shape, List.take_append, List.take_of_length_le (by omega)]
      simp
    rw [← whole, ← List.take_succ_cons, Nat.sub_add_cancel (by omega)]
  have content := dropped 0
  rw [Nat.add_zero, List.drop_zero] at content
  rw [inlinesFrom_styled found, Nat.add_assoc, taken, dropped, content]

theorem EndsBlank.any_isAlphanumeric {text : List Char} (ends : EndsBlank text) :
    text.getLast?.any isAlphanumeric = false := by
  cases last : text.getLast? with
  | none => rfl
  | some c => exact not_isAlphanumeric_of_isBlank (ends c last)

/-- A delimiter that opens and does not close in front of a part does not close inside it. -/
theorem contentLength?_of_not_closesIn {delimiter : Delimiter} (known : delimiter ∈ Delimiter.all) {own : List Char}
    (kept : ¬ ClosesIn (front ++ (delimiter.written ++ own)) atom)
    (opens : delimiter.opens front.getLast? (delimiter.written ++ own) = true)
    (unclosed : delimiter.contentLength? own = none) : delimiter.contentLength? (own ++ atom) = none := by
  have positive : 0 < delimiter.written.length := List.length_pos_iff.mpr (Delimiter.written_ne_nil known)
  have further : (front ++ (delimiter.written ++ own)).drop (front.length + delimiter.written.length) = own := by
    rw [List.drop_append, List.drop_append]
    simp
  refine Option.not_isSome_iff_eq_none.mp fun closes => kept ⟨delimiter, known, front.length, ?_, ?_, ?_, ?_⟩
  · simp only [List.length_append]
    omega
  · rwa [List.take_left, List.drop_left]
  · rwa [further]
  · rwa [further]

/-- In front of a part that is read whole, a step reads something that ends there, or a styled part that
holds all of the part. -/
theorem IsLead.inlinesFrom_append (isLead : IsLead (front ++ c :: rest)) (kept : ¬ ClosesIn (front ++ c :: rest) atom)
    (starts : StartsBlank after) (apart : previous.any isAlphanumeric = front.getLast?.any isAlphanumeric) :
    (∃ part passed further, c :: rest = passed ++ further ∧ passed ≠ [] ∧
      inlinesFrom previous (c :: (rest ++ (atom ++ after))) =
        part :: inlinesFrom passed.getLast? (further ++ (atom ++ after))) ∨
      ∃ delimiter ∈ Delimiter.all, ∃ own count more, c :: rest = delimiter.written ++ own ∧
        inlinesFrom previous (c :: (rest ++ (atom ++ after))) =
          .styled delimiter.style (inlinesFrom none (own ++ (atom ++ after.take count))) :: more := by
  have reads := isLead.step_append apart (atom ++ after)
  cases styled : styledStep? previous (c :: (rest ++ (atom ++ after))) with
  | none =>
    rw [styled, Option.getD_none] at reads
    exact .inl ⟨.text [c], [c], rest, rfl, List.cons_ne_nil c [], inlinesFrom_whole reads⟩
  | some found =>
    rw [styled, Option.getD_some] at reads
    obtain ⟨delimiter, known, length, opens, content, rfl⟩ := styledStep?_eq styled
    rw [← List.cons_append] at opens
    obtain ⟨own, shape, filled, opensLead⟩ := Delimiter.exists_content known (List.cons_ne_nil c rest)
      isLead.ends.of_append opens
    have whole : c :: (rest ++ (atom ++ after)) = delimiter.written ++ (own ++ (atom ++ after)) := by
      rw [← List.cons_append, shape, List.append_assoc]
    rw [whole, List.drop_left] at content
    rw [inlinesFrom_delimited known whole reads]
    rw [shape] at isLead kept opensLead
    cases closed : delimiter.contentLength? own with
    | some early =>
      have meet : MeetAtBlank own (atom ++ after) := .inl isLead.ends.of_append.of_append
      obtain ⟨_, same⟩ := Delimiter.contentLength?_append known filled meet
      rw [content, closed, Option.some_or] at same
      obtain rfl := Option.some.inj same
      have within := Delimiter.contentLength?_le closed
      rw [List.take_append_of_le_length within, List.drop_append_of_le_length within]
      refine .inl ⟨_, delimiter.written ++ own.take (length + delimiter.written.length),
        own.drop (length + delimiter.written.length), ?_, ?_, rfl⟩
      · rw [shape, List.append_assoc, List.take_append_drop]
      · exact List.append_ne_nil_of_left_ne_nil (Delimiter.written_ne_nil known) _
    | none =>
      have unclosed := contentLength?_of_not_closesIn known kept (by rwa [← Delimiter.opens_congr apart]) closed
      have meet : MeetAtBlank (own ++ atom) after := .inr starts
      obtain ⟨_, same⟩ := Delimiter.contentLength?_append known (List.append_ne_nil_of_left_ne_nil filled atom) meet
      rw [List.append_assoc, content, unclosed, Option.none_or] at same
      obtain ⟨count, _, rfl⟩ := Option.map_eq_some_iff.mp same.symm
      have taken : (own ++ (atom ++ after)).take (count + (own ++ atom).length) =
          own ++ (atom ++ after.take count) := by
        rw [← List.append_assoc, Nat.add_comm, List.take_length_add_append, List.append_assoc]
      rw [taken]
      exact .inr ⟨delimiter, known, own, count, _, shape, rfl⟩

/-- The content of a styled part is found in it. -/
theorem htmlOf_infix_styled (style : Style) (content : List Inline) :
    Inline.htmlOf content <:+: (Inline.styled style content).html := by
  have shape : (Inline.styled style content).html =
      '<' :: style.element ++ ['>'] ++ Inline.htmlOf content ++ ("</".toList ++ style.element ++ ['>']) := by
    simp [Inline.html, writeElement]
  exact shape ▸ List.infix_append ..

/-- Behind a text without a delimiter that first closes inside it, a part that is read whole is shown as
on its own, also from the middle of the text on. -/
theorem IsAtom.infix_inlinesFrom (isAtom : IsAtom atom) (starts : StartsBlank after) (isLead : IsLead (front ++ lead))
    (kept : ¬ ClosesIn (front ++ lead) atom)
    (apart : previous.any isAlphanumeric = front.getLast?.any isAlphanumeric) :
    Inline.htmlOf (inlines atom) <:+: Inline.htmlOf (inlinesFrom previous (lead ++ (atom ++ after))) := by
  induction size : lead.length using Nat.strongRecOn generalizing front lead previous after with
  | ind bound ih =>
  cases lead with
  | nil =>
    rw [List.append_nil] at isLead
    obtain ⟨c, rest, rfl⟩ := List.exists_cons_of_ne_nil isAtom.ne_nil
    obtain ⟨part, taken, single, found⟩ := isAtom.exists_step starts (apart.trans isLead.ends.any_isAlphanumeric)
    rw [single, List.nil_append, List.cons_append, inlinesFrom_whole found]
    simp only [Inline.htmlOf_cons, Inline.htmlOf_nil, List.append_nil]
    exact (List.prefix_append ..).isInfix
  | cons c rest =>
    have read := isLead.inlinesFrom_append kept starts apart
    have shorter {passed further : List Char} (shape : c :: rest = passed ++ further) (filled : passed ≠ []) :
        further.length < bound := by
      have positive := List.length_pos_iff.mpr filled
      rw [← size, shape, List.length_append]
      omega
    rw [List.cons_append]
    rcases read with ⟨part, passed, further, shape, filled, read⟩ | ⟨delimiter, known, own, count, more, shape, read⟩
    · rw [shape, ← List.append_assoc] at isLead kept
      have last := List.getLast?_append_of_ne_nil front filled
      have later := ih _ (shorter shape filled) starts isLead kept (congrArg (Option.any isAlphanumeric) last.symm) rfl
      rw [read, Inline.htmlOf_cons]
      exact later.trans (List.suffix_append ..).isInfix
    · -- the content of a styled part is read as if nothing stood before it
      rw [shape, ← List.append_assoc] at isLead kept
      have filled := Delimiter.written_ne_nil known
      have marked : none.any isAlphanumeric = (front ++ delimiter.written).getLast?.any isAlphanumeric := by
        rw [List.getLast?_append_of_ne_nil front filled]
        exact (by decide : ∀ delimiter ∈ Delimiter.all, none.any isAlphanumeric =
          delimiter.written.getLast?.any isAlphanumeric) delimiter known
      have inside := ih _ (shorter shape filled) (starts.take count) isLead kept marked rfl
      rw [read, Inline.htmlOf_cons]
      exact (inside.trans (htmlOf_infix_styled ..)).trans (List.prefix_append ..).isInfix

/-- Between a text without a delimiter that first closes inside it and a blank, a part that is read whole is
shown as on its own. -/
theorem IsAtom.renderLine_infix (isAtom : IsAtom atom) (isLead : IsLead lead) (starts : StartsBlank after)
    (kept : ¬ ClosesIn lead atom) : renderLine atom <:+: renderLine (lead ++ atom ++ after) := by
  rw [List.append_assoc]
  have whole : IsLead ([] ++ lead) := isLead
  exact isAtom.infix_inlinesFrom starts whole kept rfl

/-- An address inside two open styles. -/
theorem renderLine_infix_styles : renderLine "https://a.b/c_d".toList <:+:
    renderLine ("_see *x ".toList ++ "https://a.b/c_d".toList ++ " y*_".toList) :=
  IsAtom.renderLine_infix (.address (by decide +kernel)) (by decide +kernel) (by decide) (by decide +kernel)

/-- An asterisk inside an address ends emphasis that began in front of it. -/
theorem not_renderLine_infix_star : IsAtom "https://a.b/c*d".toList ∧ IsLead "*x ".toList ∧ StartsBlank [] ∧
    ¬ renderLine "https://a.b/c*d".toList <:+: renderLine ("*x ".toList ++ "https://a.b/c*d".toList ++ []) :=
  ⟨.address (by decide +kernel), by decide +kernel, by decide, by decide +kernel⟩

end PostMarkup.Markdown
