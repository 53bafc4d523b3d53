import PostMarkup.Proofs.Markdown.Cut

/-! # Parts that are read whole

A code span, a link and an image end with their own closing mark, and a bare address with the blank
after it. So each of them is read the same in front of a blank, whatever follows.
-/

namespace PostMarkup.Markdown

open PostMarkup.Text PostMarkup.Unicode

variable {left right atom : List Char} {previous : Option Char} {c : Char} {rest : List Char}

/-- Whether a text read on its own is one code span, one link, one image or one bare address. -/
inductive IsAtom (text : List Char) : Prop
  | code {characters : List Char} : inlines text = [.code characters] → IsAtom text
  | link {target : Target} : inlines text = [.link target] → IsAtom text
  | image {target : Target} : inlines text = [.image target] → IsAtom text
  | address : bareAddress? none text = some text → IsAtom text

theorem backticks_append (apart : '\x60' ∉ right.head?) : backticks (left ++ right) = backticks left := by
  unfold backticks
  rw [List.takeWhile_append]
  split
  · rename_i whole
    have stops : right.takeWhile (fun c => decide (c = '\x60')) = [] := by
      cases right with
      | nil => rfl
      | cons b others =>
        have differs : b ≠ '\x60' := by simpa [eq_comm] using apart
        simp [differs]
    rw [stops, List.append_nil, whole]
  · rfl

theorem backticks_le (text : List Char) : backticks text ≤ text.length :=
  (List.takeWhile_sublist _).length_le

/-- Backticks that close a code span close it in a longer text. -/
theorem untilBackticks?_append {run : Nat} {body : List Char} (found : untilBackticks? run left = some body)
    (apart : '\x60' ∉ right.head?) : untilBackticks? run (left ++ right) = some body := by
  fun_induction untilBackticks? run left generalizing body with
  | case1 => simp at found
  | case2 rest count =>
    rename_i same
    rw [List.cons_append, untilBackticks?, if_pos rfl, backticks_append apart]
    exact (if_pos same).trans found
  | case3 rest count differs =>
    rename_i ih
    obtain ⟨inner, read, rfl⟩ := Option.map_eq_some_iff.mp found
    have further : untilBackticks? run ((rest ++ right).drop (backticks rest + 1 - 1)) = some inner := by
      rw [Nat.add_sub_cancel, List.drop_append_of_le_length (backticks_le rest)]
      exact ih read
    rw [List.cons_append, untilBackticks?, if_pos rfl, backticks_append apart]
    refine (if_neg differs).trans ?_
    rw [further]
    rfl
  | case4 first rest other ih =>
    obtain ⟨inner, read, rfl⟩ := Option.map_eq_some_iff.mp found
    rw [List.cons_append, untilBackticks?, if_neg other, ih read]
    rfl

theorem backtickStep_append {characters : List Char} {taken : Nat}
    (found : backtickStep left = .whole (.code characters) taken) (apart : '\x60' ∉ right.head?) :
    backtickStep (left ++ right) = .whole (.code characters) taken := by
  unfold backtickStep at found ⊢
  simp only at found ⊢
  rw [backticks_append apart, List.drop_append_of_le_length (backticks_le left)]
  split at found
  · rename_i body closed
    rw [untilBackticks?_append closed apart]
    exact found
  · simp at found

/-- A bracket that closes a label closes it in a longer text. -/
theorem labelLength?_append_of_some {depth length : Nat} (found : labelLength? depth left = some length)
    (right : List Char) : labelLength? depth (left ++ right) = some length ∧ length < left.length := by
  fun_induction labelLength? depth left generalizing length with
  | case1 => simp at found
  | case2 => simp at found
  | case3 depth next further ih =>
    obtain ⟨inner, read, rfl⟩ := Option.map_eq_some_iff.mp found
    obtain ⟨same, within⟩ := ih read
    simp [labelLength?, same, within]
  | case4 depth further ih =>
    obtain ⟨inner, read, rfl⟩ := Option.map_eq_some_iff.mp found
    obtain ⟨same, within⟩ := ih read
    simp [labelLength?, same, within]
  | case5 further =>
    obtain rfl := Option.some.inj found
    simp [labelLength?]
  | case6 further depth ih =>
    obtain ⟨inner, read, rfl⟩ := Option.map_eq_some_iff.mp found
    obtain ⟨same, within⟩ := ih read
    simp [labelLength?, same, within]
  | case7 depth first further notEscape notOpen notClose ih =>
    obtain ⟨inner, read, rfl⟩ := Option.map_eq_some_iff.mp found
    obtain ⟨same, within⟩ := ih read
    rw [List.cons_append, labelLength?, same]
    · simp [within]
    all_goals assumption

theorem cutAt?_append {mark : Char} {before after : List Char} (cut : cutAt? mark left = some (before, after))
    (right : List Char) : cutAt? mark (left ++ right) = some (before, after ++ right) := by
  induction left generalizing before with
  | nil => simp [cutAt?] at cut
  | cons c rest ih =>
    rw [List.cons_append, cutAt?]
    rw [cutAt?] at cut
    split
    · rename_i marked
      simp only [marked, if_true, Option.some.injEq, Prod.mk.injEq] at cut
      simp [cut.1.symm, cut.2]
    · rename_i other
      rw [if_neg other] at cut
      obtain ⟨⟨head, tail⟩, read, same⟩ := Option.map_eq_some_iff.mp cut
      simp only [Prod.mk.injEq] at same
      rw [ih (same.2 ▸ read), ← same.1]
      rfl

theorem dropWhile_append_of_cons {drop : Char → Bool} {further : List Char}
    (stops : left.dropWhile drop = c :: further) (right : List Char) :
    (left ++ right).dropWhile drop = c :: (further ++ right) := by
  simp [List.dropWhile_append, stops]

theorem exists_cons_of_readTitle? {title : Option (List Char)} {further : List Char}
    (found : readTitle? left = some (title, c :: further)) : ∃ first others, left = first :: others := by
  cases left with
  | nil => simp [readTitle?] at found
  | cons first others => exact ⟨first, others, rfl⟩

/-- A title that is read with a character after it is read in a longer text. -/
theorem readTitle?_append {title : Option (List Char)} {further : List Char}
    (found : readTitle? left = some (title, c :: further)) (right : List Char) :
    readTitle? (left ++ right) = some (title, c :: (further ++ right)) := by
  unfold readTitle? at found
  split at found
  · rename_i quoted
    obtain ⟨⟨words, after⟩, cut, same⟩ := Option.map_eq_some_iff.mp found
    simp only [Prod.mk.injEq] at same
    obtain ⟨rfl, stops⟩ := same
    simp [readTitle?, cutAt?_append cut, dropWhile_append_of_cons stops]
  · rename_i unquoted
    simp only [Option.some.injEq, Prod.mk.injEq] at found
    obtain ⟨rfl, rfl⟩ := found
    have differs : c ≠ '"' := by
      rintro rfl
      exact unquoted _ rfl
    simp [readTitle?, differs]

/-- A target that is read is read in a longer text. -/
theorem readTarget?_append {target : Target} {after : List Char}
    (found : readTarget? left = some (target, after)) (right : List Char) :
    readTarget? (left ++ right) = some (target, after ++ right) := by
  simp only [readTarget?, Option.bind_eq_bind, Option.bind_eq_some_iff] at found
  obtain ⟨length, labelled, found⟩ := found
  obtain ⟨labelled', within⟩ := labelLength?_append_of_some labelled right
  split at found
  · rename_i inner shape
    have shape' : (left ++ right).drop (length + 1) = '(' :: (inner ++ right) := by
      rw [List.drop_append_of_le_length within, shape, List.cons_append]
    split at found
    · rename_i linkable
      simp only [Option.bind_eq_some_iff] at found
      obtain ⟨⟨title, closing⟩, titled, found⟩ := found
      split at found
      · rename_i further closes
        simp only at closes
        subst closes
        simp only [Option.some.injEq, Prod.mk.injEq] at found
        obtain ⟨rfl, rfl⟩ := found
        obtain ⟨c, others, filled⟩ := exists_cons_of_readTitle? titled
        have url : (inner ++ right).takeWhile (fun c => decide (c ≠ ')') && !isBlank c) =
            inner.takeWhile (fun c => decide (c ≠ ')') && !isBlank c) := by
          rw [List.takeWhile_append, if_neg]
          intro whole
          rw [whole, List.drop_length] at filled
          cases filled
        have spaces := dropWhile_append_of_cons filled right
        rw [← List.drop_append_of_le_length (List.takeWhile_sublist _).length_le] at spaces
        have titled' := readTitle?_append titled right
        rw [filled, List.cons_append] at titled'
        simp only [readTarget?, Option.bind_eq_bind, labelled', Option.bind_some, shape', url, linkable, if_true,
          spaces, titled', List.take_append_of_le_length (Nat.le_of_lt within)]
      · simp at found
    · simp at found
  · simp at found

/-- An image or a link that is read is read in a longer text. -/
theorem targetStep?_append {found : Step} (read : targetStep? left = some found) (right : List Char) :
    targetStep? (left ++ right) = some found := by
  unfold targetStep? at read
  split at read
  · obtain ⟨⟨target, after⟩, own, rfl⟩ := Option.map_eq_some_iff.mp read
    simp only [List.cons_append, targetStep?, readTarget?_append own right, Option.map_some, Option.some.injEq,
      Step.whole.injEq, true_and, List.length_cons, List.length_append]
    omega
  · obtain ⟨⟨target, after⟩, own, rfl⟩ := Option.map_eq_some_iff.mp read
    simp only [List.cons_append, targetStep?, readTarget?_append own right, Option.map_some, Option.some.injEq,
      Step.whole.injEq, true_and, List.length_cons, List.length_append]
    omega
  · simp at read

theorem step_backtick (previous : Option Char) (rest : List Char) :
    step previous '\x60' rest = backtickStep ('\x60' :: rest) := by
  simp [step]

/-- The character at which an image or a link is read. -/
theorem head_of_targetStep? {found : Step} (read : targetStep? (c :: rest) = some found) :
    c = '[' ∨ c = '!' ∧ rest.head? = some '[' := by
  unfold targetStep? at read
  split at read
  · rename_i same
    simp only [List.cons.injEq] at same
    exact .inr ⟨same.1, same.2 ▸ rfl⟩
  · rename_i same
    exact .inl (List.cons.inj same).1
  · simp at read

theorem step_target {found : Step} (read : targetStep? (c :: rest) = some found) : step previous c rest = found := by
  have escape : c ≠ '\\' := by
    rcases head_of_targetStep? read with rfl | ⟨rfl, _⟩ <;> decide
  have backtick : c ≠ '\x60' := by
    rcases head_of_targetStep? read with rfl | ⟨rfl, _⟩ <;> decide
  simp [step, escape, backtick, read]

/-- A character that neither escapes another one nor starts a code span, an image or a link. -/
theorem step_of_plain (plain : c ∉ "\\\x60[".toList) (noImage : c = '!' → rest.head? ≠ some '[') :
    step previous c rest =
      ((bareAddress? previous (c :: rest)).map fun address => .whole (.text address) address.length).getD
        ((styledStep? previous (c :: rest)).getD (.whole (.text [c]) 1)) := by
  have other : ∀ special ∈ "\\\x60[".toList, c ≠ special := by
    rintro special listed rfl
    exact plain listed
  have escape : c ≠ '\\' := other _ (by decide)
  have backtick : c ≠ '\x60' := other _ (by decide)
  have target : targetStep? (c :: rest) = none := by
    cases found : targetStep? (c :: rest) with
    | none => rfl
    | some step =>
      rcases head_of_targetStep? found with link | ⟨image, bracket⟩
      · exact absurd link (other _ (by decide))
      · exact absurd bracket (noImage image)
  cases address : bareAddress? previous (c :: rest) <;> simp [step, escape, backtick, target, address]

theorem toLower_of_linkedScheme? {scheme : List Char} (found : Url.linkedScheme? (c :: rest) = some scheme) :
    c.toLower = 'h' := by
  obtain ⟨listed, same⟩ := Url.lowerAscii_of_linkedScheme? found
  obtain ⟨others, rfl⟩ := List.head?_eq_some_iff.mp
    ((by decide : ∀ scheme ∈ Url.linkedSchemes, scheme.head? = some 'h') scheme listed)
  exact (List.cons.inj same).1

/-- The character at which a bare address is read. -/
theorem toLower_of_bareAddress? {address : List Char} (read : bareAddress? previous (c :: rest) = some address) :
    c.toLower = 'h' := by
  unfold bareAddress? at read
  split at read
  · simp at read
  · obtain ⟨scheme, found, _⟩ := Option.bind_eq_some_iff.mp read
    exact toLower_of_linkedScheme? found

theorem step_address {address : List Char} (read : bareAddress? previous (c :: rest) = some address) :
    step previous c rest = .whole (.text address) address.length := by
  have small := toLower_of_bareAddress? read
  have plain : c ∉ "\\\x60[!".toList := fun special =>
    absurd small ((by decide : ∀ special ∈ "\\\x60[!".toList, special.toLower ≠ 'h') c special)
  have noImage : c ≠ '!' := by
    rintro rfl
    exact plain (by decide)
  have kept : ∀ special ∈ "\\\x60[".toList, special ∈ "\\\x60[!".toList := by decide
  rw [step_of_plain (fun special => plain (kept c special)) (fun image => absurd image noImage), read]
  rfl

theorem backtickStep_eq (text : List Char) :
    ∃ characters taken, backtickStep text = .whole (.code characters) taken ∨
      backtickStep text = .whole (.text characters) taken := by
  unfold backtickStep
  simp only
  split
  · exact ⟨_, _, .inl rfl⟩
  · exact ⟨_, _, .inr rfl⟩

theorem targetStep?_eq {text : List Char} {found : Step} (read : targetStep? text = some found) :
    ∃ target taken, found = .whole (.image target) taken ∨ found = .whole (.link target) taken := by
  unfold targetStep? at read
  split at read
  · obtain ⟨⟨target, after⟩, _, rfl⟩ := Option.map_eq_some_iff.mp read
    exact ⟨target, _, .inl rfl⟩
  · obtain ⟨⟨target, after⟩, _, rfl⟩ := Option.map_eq_some_iff.mp read
    exact ⟨target, _, .inr rfl⟩
  · simp at read

theorem styledStep?_eq {text : List Char} {found : Step} (read : styledStep? previous text = some found) :
    ∃ delimiter ∈ Delimiter.all, ∃ length, delimiter.opens previous text = true ∧
      delimiter.contentLength? (text.drop delimiter.written.length) = some length ∧
      found = .styled delimiter.style delimiter.written.length length := by
  obtain ⟨delimiter, known, read⟩ := List.exists_of_findSome?_eq_some read
  split at read
  · rename_i opens
    obtain ⟨length, content, rfl⟩ := Option.map_eq_some_iff.mp read
    exact ⟨delimiter, known, length, opens, content, rfl⟩
  · simp at read

/-- A character that is no marker starts no styled part. -/
theorem styledStep?_of_ne (differs : ∀ delimiter ∈ Delimiter.all, c ≠ delimiter.marker) :
    styledStep? previous (c :: rest) = none := by
  refine Option.eq_none_iff_forall_ne_some.mpr fun found read => ?_
  obtain ⟨delimiter, known, _, opens, _⟩ := styledStep?_eq read
  have begins := Delimiter.isPrefix_of_opens opens
  rw [Delimiter.written_eq] at begins
  exact differs delimiter known (List.cons_prefix_cons.mp begins).1.symm

/-- What is read whole is text, a code span or the image or link that stands there. -/
theorem whole_of_step {part : Inline} {taken : Nat} (found : step previous c rest = .whole part taken) :
    (∃ characters, part = .text characters) ∨
      c = '\x60' ∧ backtickStep (c :: rest) = .whole part taken ∨
      targetStep? (c :: rest) = some (.whole part taken) := by
  unfold step at found
  split at found
  · split at found
    all_goals
      cases found
      exact .inl ⟨_, rfl⟩
  · split at found
    · rename_i backtick
      exact .inr (.inl ⟨backtick, found⟩)
    · split at found
      · rename_i targeted
        exact .inr (.inr (found ▸ targeted))
      · split at found
        · cases found
          exact .inl ⟨_, rfl⟩
        · cases styled : styledStep? previous (c :: rest) with
          | none =>
            simp only [styled, Option.getD_none, Step.whole.injEq] at found
            exact .inl ⟨_, found.1.symm⟩
          | some other =>
            obtain ⟨_, _, _, _, _, rfl⟩ := styledStep?_eq styled
            simp [styled] at found

theorem inlinesFrom_whole {part : Inline} {taken : Nat} (found : step previous c rest = .whole part taken) :
    inlinesFrom previous (c :: rest) =
      part :: inlinesFrom (c :: rest.take (taken - 1)).getLast? (rest.drop (taken - 1)) := by
  rw [inlinesFrom, found]
  rfl

theorem inlinesFrom_styled {style : Style} {width length : Nat}
    (found : step previous c rest = .styled style width length) :
    inlinesFrom previous (c :: rest) =
      .styled style (inlinesFrom none ((rest.drop (width - 1)).take length)) ::
        inlinesFrom (c :: rest.take (width + length + width - 1)).getLast?
          (rest.drop (width + length + width - 1)) := by
  rw [inlinesFrom, found]
  rfl

/-- A line that one step takes to its end has one part. -/
theorem inlines_whole {part : Inline} {taken : Nat} (found : step none c rest = .whole part taken)
    (all : rest.length < taken) : inlines (c :: rest) = [part] := by
  rw [inlines, inlinesFrom_whole found, List.drop_eq_nil_of_le (Nat.le_sub_one_of_lt all), inlinesFrom]

/-- A single part that is not styled is read in one step. -/
theorem step_of_inlines {part : Inline} (single : inlines (c :: rest) = [part])
    (plain : ∀ style content, part ≠ .styled style content) : ∃ taken, step none c rest = .whole part taken := by
  unfold inlines at single
  cases found : step none c rest with
  | whole other taken =>
    rw [inlinesFrom_whole found] at single
    exact ⟨taken, congrArg (Step.whole · taken) (List.cons.inj single).1⟩
  | styled style width length =>
    rw [inlinesFrom_styled found] at single
    exact absurd (List.cons.inj single).1.symm (plain _ _)

namespace IsAtom

theorem ne_nil (isAtom : IsAtom atom) : atom ≠ [] := by
  rintro rfl
  cases isAtom with
  | code single | link single | image single => simp [inlines, inlinesFrom] at single
  | address read => simp [bareAddress?, Url.linkedScheme?, Url.linkedSchemes, startsIgnoringCase, lowerAscii] at read

/-- Where a part that is read whole stands in front of a blank, it is read in one step. -/
theorem exists_step (isAtom : IsAtom (c :: rest)) (starts : StartsBlank right)
    (apart : previous.any isAlphanumeric = false) :
    ∃ part taken, inlines (c :: rest) = [part] ∧ step previous c (rest ++ right) = .whole part taken := by
  cases isAtom with
  | code single =>
    obtain ⟨taken, found⟩ := step_of_inlines single (by simp)
    refine ⟨_, taken, single, ?_⟩
    rcases whole_of_step found with ⟨_, other⟩ | ⟨rfl, read⟩ | read
    · cases other
    · have noBacktick : '\x60' ∉ right.head? := fun first => absurd (starts _ first) (by decide)
      rw [step_backtick, ← List.cons_append, backtickStep_append read noBacktick]
    · obtain ⟨_, _, other | other⟩ := targetStep?_eq read <;> cases other
  | link single | image single =>
    obtain ⟨taken, found⟩ := step_of_inlines single (by simp)
    refine ⟨_, taken, single, ?_⟩
    rcases whole_of_step found with ⟨_, other⟩ | ⟨rfl, read⟩ | read
    · cases other
    · obtain ⟨_, _, other | other⟩ := backtickStep_eq ('\x60' :: rest) <;> cases read.symm.trans other
    · exact step_target (targetStep?_append read right)
  | address read =>
    have read' : bareAddress? previous (c :: (rest ++ right)) = some (c :: rest) := by
      rw [← List.cons_append, bareAddress?_append previous (List.cons_ne_nil c rest) (.inr starts),
        bareAddress?_congr (apart.trans (Option.any_none ..).symm), read]
    exact ⟨.text (c :: rest), (c :: rest).length, inlines_whole (step_address read) (Nat.lt_succ_self _),
      step_address read'⟩

end IsAtom

end PostMarkup.Markdown
