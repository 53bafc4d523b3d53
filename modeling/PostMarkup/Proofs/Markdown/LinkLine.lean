import PostMarkup.Proofs.Markdown.Prose

/-! # A line that is one link

A label without brackets and backslashes reaches to the bracket after it, and an address without
blanks to the parenthesis after it. A line that starts with a bracket starts no block, so a document
of such a line is the link.
-/

namespace PostMarkup.Markdown

open PostMarkup.Text

/-- A link without a title as its author types it. -/
def linkLine (label url : List Char) : List Char :=
  "[".toList ++ label ++ "](".toList ++ url ++ ")".toList

/-- Whether a label on one line stands for itself. -/
def IsPlainLabel (label : List Char) : Prop := ∀ c ∈ label, c ∉ "[]\\\r\n".toList

/-- Whether an address has one of the schemes and something after it, and neither blanks nor a closing
parenthesis. -/
structure IsPlainUrl (url : List Char) : Prop where
  scheme : ∃ scheme ∈ ["http://".toList, "https://".toList],
    startsIgnoringCase scheme url = true ∧ scheme.length < url.length
  solid : ∀ c ∈ url, isBlank c = false ∧ c ≠ ')'

variable {label url : List Char}

theorem IsPlainUrl.isLinkable (plain : IsPlainUrl url) : Url.isLinkable url = true := by
  obtain ⟨scheme, known, starts, longer⟩ := plain.scheme
  unfold Url.isLinkable Url.linkedScheme?
  cases found : Url.linkedSchemes.find? (startsIgnoringCase · url) with
  | none => exact absurd starts (List.find?_eq_none.mp found scheme known)
  | some first =>
    -- the shorter scheme is tried first
    have shortest : first.length ≤ scheme.length := by
      have listed := List.mem_of_find?_eq_some found
      simp only [List.mem_cons, List.not_mem_nil, or_false] at known
      rcases known with rfl | rfl
      · simp only [Url.linkedSchemes, List.find?_cons, starts, Option.some.injEq] at found
        exact Nat.le_of_eq (congrArg List.length found.symm)
      · exact (by decide : ∀ first ∈ Url.linkedSchemes, first.length ≤ "https://".toList.length) first listed
    simpa using Nat.lt_of_le_of_lt shortest longer

theorem labelLength?_append (plain : IsPlainLabel label) (rest : List Char) :
    labelLength? 0 (label ++ ']' :: rest) = some label.length := by
  induction label with
  | nil => rfl
  | cons c others ih =>
    obtain ⟨first, further⟩ := List.forall_mem_cons.mp plain
    have other : ∀ special ∈ "[]\\".toList, c ≠ special := by
      rintro special listed rfl
      exact first ((by decide : ∀ special ∈ "[]\\".toList, special ∈ "[]\\\r\n".toList) c listed)
    rw [List.cons_append, labelLength?, ih further]
    · rfl
    all_goals exact other _ (by decide)

theorem plainLabel_eq (plain : IsPlainLabel label) : plainLabel label = label := by
  fun_induction plainLabel label with
  | case1 => rfl
  | case2 => rfl
  | case3 first next rest escaped ih =>
    exact absurd (escaped.1 ▸ plain first List.mem_cons_self) (by decide)
  | case4 first next rest unescaped ih =>
    rw [ih fun c member => plain c (List.mem_cons_of_mem _ member)]

theorem readTarget?_linkLine (plain : IsPlainLabel label) (address : IsPlainUrl url) :
    readTarget? (label ++ ("](".toList ++ (url ++ ")".toList))) = some (⟨url, label, none⟩, []) := by
  have length := labelLength?_append plain ('(' :: (url ++ ")".toList))
  have solid : ∀ c ∈ url, (decide (c ≠ ')') && !isBlank c) = true := by
    intro c member
    obtain ⟨unblank, other⟩ := address.solid c member
    simp [unblank, other]
  have taken : (url ++ ")".toList).takeWhile (fun c => decide (c ≠ ')') && !isBlank c) = url := by
    rw [List.takeWhile_append_of_pos solid]
    simp
  have after : (label ++ ']' :: '(' :: (url ++ ")".toList)).drop (label.length + 1) =
      '(' :: (url ++ ")".toList) := by
    simp [List.drop_append]
  change readTarget? (label ++ ']' :: '(' :: (url ++ ")".toList)) = _
  have closing : ((url ++ ")".toList).drop url.length).dropWhile (· = ' ') = ")".toList := by
    rw [List.drop_left]
    rfl
  simp only [readTarget?, length, Option.bind_eq_bind, Option.bind_some, after, taken, address.isLinkable, if_true,
    closing, readTitle?]
  simp [plainLabel_eq plain]

theorem linkLine_eq (label url : List Char) :
    linkLine label url = '[' :: (label ++ ("](".toList ++ (url ++ ")".toList))) := by
  simp [linkLine]

theorem inlines_linkLine (plain : IsPlainLabel label) (address : IsPlainUrl url) :
    inlines (linkLine label url) = [.link ⟨url, label, none⟩] := by
  have read : targetStep? (linkLine label url) =
      some (.whole (.link ⟨url, label, none⟩) (linkLine label url).length) := by
    rw [linkLine_eq, targetStep?, readTarget?_linkLine plain address]
    rfl
  rw [linkLine_eq] at read ⊢
  exact inlines_whole (step_target read) (Nat.lt_succ_self _)

theorem lineEnd_not_mem_linkLine (plain : IsPlainLabel label) (address : IsPlainUrl url) {mark : Char}
    (lineEnd : mark ∈ "\r\n".toList) : mark ∉ linkLine label url := by
  have facts : ∀ mark ∈ "\r\n".toList, isBlank mark = true ∧ mark ∈ "[]\\\r\n".toList ∧ mark ∉ "[]()".toList := by
    decide
  obtain ⟨blank, special, other⟩ := facts mark lineEnd
  have inLabel : mark ∉ label := fun member => plain mark member special
  have inUrl : mark ∉ url := fun member => absurd blank (by simp [(address.solid mark member).1])
  simp_all [linkLine]

/-- A document of one link. -/
theorem render_linkLine (plain : IsPlainLabel label) (address : IsPlainUrl url) :
    render (linkLine label url) = (⟨url, label, none⟩ : Target).writeLink := by
  have content := inlines_linkLine plain address
  have single : lines (linkLine label url) = [linkLine label url] := lines_of_line
    (lineEnd_not_mem_linkLine plain address (by decide)) (lineEnd_not_mem_linkLine plain address (by decide))
  have noBlock : ∀ line ∈ lines (linkLine label url), StartsNoBlock line := by
    rw [single]
    intro line member c first
    rw [List.mem_singleton.mp member, linkLine_eq] at first
    obtain rfl := Option.mem_some.mp first
    decide
  have blocks := readDocument_of_startsNoBlock noBlock (by simp [single])
  rw [single, List.map_singleton, content] at blocks
  rw [render, blocks, List.map_singleton, joinWith, html_line, Inline.htmlOf_cons, Inline.htmlOf_nil, Inline.html,
    List.append_nil]

end PostMarkup.Markdown
