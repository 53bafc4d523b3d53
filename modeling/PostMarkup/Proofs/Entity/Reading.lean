import PostMarkup.Entity.Extract
import PostMarkup.Proofs.Entity.Trim
import PostMarkup.Url.Linked

/-! # Reading entities in escaped text

What an entity reader takes at the start of an escaped text is the escaped form of a start of the
text, and what it answers with is that start. The exception is an address from which trimming took
the semicolon of an ampersand.
-/

namespace PostMarkup

open PostMarkup.Text PostMarkup.Unicode

/-- Whether what stands in an entity is a piece of text: an address is the piece, and a hashtag or
mention the piece without its sign. -/
def EntityKind.Reads : EntityKind → List Char → Prop
  | .url address, slice => address = slice
  | .hashtag tag, slice => ∃ sign, (sign = '#' ∨ sign = '＃') ∧ slice = sign :: tag
  | .mention account, slice => ∃ sign, (sign = '@' ∨ sign = '＠') ∧ slice = sign :: account
  | .markup, _ => False

variable {form : TextForm} {bare : Bool} {before text : List Char}

namespace Address

/-- An address starts with one of the schemes, or without one at a letter or a digit. -/
theorem cases_of_schemeLength? {length : Nat} (found : schemeLength? bare text = some length) :
    (∃ scheme ∈ Url.linkedSchemes, startsIgnoringCase scheme text = true ∧ length = scheme.length) ∨
      length = 0 ∧ text.head?.any Char.isAlphanum = true := by
  unfold schemeLength? at found
  split at found
  · rename_i starts
    cases found
    exact .inl ⟨"https://".toList, by decide, starts, rfl⟩
  · split at found
    · rename_i starts
      cases found
      exact .inl ⟨"http://".toList, by decide, starts, rfl⟩
    · simp only [Option.ite_none_right_eq_some, Bool.and_eq_true, Option.some.injEq] at found
      exact .inr ⟨found.2.symm, found.1.2⟩

theorem isUnescaped_scheme : ∀ scheme ∈ Url.linkedSchemes, IsUnescaped scheme := by
  unfold IsUnescaped
  decide

/-- The scheme of an address holds nothing escaped. -/
theorem exists_of_schemeLength? {length : Nat} (found : schemeLength? bare text = some length) :
    ∃ lead rest, text = lead ++ rest ∧ IsUnescaped lead ∧ lead.length = length := by
  rcases cases_of_schemeLength? found with ⟨scheme, listed, starts, rfl⟩ | ⟨rfl, _⟩
  · refine ⟨text.take scheme.length, text.drop scheme.length, (List.take_append_drop ..).symm, ?_, ?_⟩
    · exact isUnescaped_take (isUnescaped_scheme scheme listed) text starts
    · have sized := congrArg List.length (lowerAscii_take starts)
      simpa [lowerAscii] using sized
  · exact ⟨[], text, rfl, by simp [IsUnescaped], rfl⟩

/-- A scheme is read in escaped text as in the text. -/
theorem schemeLength?_escapeText (bare : Bool) (text : List Char) :
    schemeLength? bare (escapeText text) = schemeLength? bare text := by
  have first : (escapeText text).head?.any Char.isAlphanum = text.head?.any Char.isAlphanum := by
    cases text with
    | nil => rfl
    | cons c rest =>
      rw [escapeText_cons]
      rcases escapeChar_eq c with own | ⟨rfl, written⟩ | ⟨rfl, written⟩ | ⟨rfl, written⟩
      · rw [own]
        rfl
      all_goals
        rw [written]
        rfl
  have secure := isUnescaped_scheme "https://".toList (by decide)
  have open' := isUnescaped_scheme "http://".toList (by decide)
  rw [schemeLength?, startsIgnoringCase_escapeText secure, startsIgnoringCase_escapeText open', first]
  rfl

theorem host_escapeText (text : List Char) : host (escapeText text) = host text := by
  unfold host
  rw [takeWhile_escapeText (by decide)]

theorem host_isStart (text : List Char) : host text <+: text :=
  (dropEndWhile_isStart _ _).trans (List.takeWhile_prefix _)

theorem isUnescaped_host (text : List Char) : IsUnescaped (host text) :=
  (isUnescaped_takeWhile (by decide) text).of_start (dropEndWhile_isStart _ _)

/-- An address takes a trimmed start of the text. -/
theorem trimmed_read? {address : List Char}
    (found : read? .html bare before (escapeText text) = some address) :
    Trimmed text address.reverse := by
  unfold read? at found
  split at found
  · exact absurd found (by simp)
  · obtain ⟨scheme, schemed, found⟩ := Option.bind_eq_some_iff.mp found
    rw [schemeLength?_escapeText] at schemed
    obtain ⟨lead, rest, rfl, plain, rfl⟩ := exists_of_schemeLength? schemed
    obtain ⟨further, shape⟩ := host_isStart rest
    have upToHost : IsUnescaped (lead ++ host rest) := plain.append (isUnescaped_host rest)
    have whole : lead ++ rest = lead ++ host rest ++ further := by
      rw [List.append_assoc, shape]
    simp only [drop_escapeText plain, host_escapeText, ← List.length_append] at found
    rw [whole, take_escapeText upToHost, drop_escapeText upToHost, run_escapeText] at found
    split at found
    · exact absurd found (by simp)
    · split at found
      · exact absurd found (by simp)
      · have start : lead ++ host rest ++ run .plain further <+: lead ++ rest := by
          rw [whole]
          exact (List.prefix_append_right_inj _).mpr (run_isStart .plain further)
        have notAngle : '<' ∉ lead ++ host rest ++ run .plain further ∧
            '>' ∉ lead ++ host rest ++ run .plain further := by
          constructor
          · exact List.not_mem_append upToHost.not_angle.1 (not_mem_run (by decide) .plain further)
          · exact List.not_mem_append upToHost.not_angle.2 (not_mem_run (by decide) .plain further)
        have trimmed := (trim_escapeText notAngle).of_start start
        rw [escapeText_append, escapeText_of_isUnescaped upToHost, Option.some.inj found] at trimmed
        exact trimmed

end Address

/-- The word after a number sign is a start of the text on one line that holds nothing escaped. -/
theorem Hashtag.isStart_of_read? {tag : List Char}
    (found : Hashtag.read? form before text = some tag) :
    tag <+: text ∧ IsUnescaped tag ∧ '\n' ∉ tag := by
  have stops : (fun c => isWordChar c || isInnerDot c) '&' = false ∧
      (fun c => isWordChar c || isInnerDot c) '<' = false ∧
        (fun c => isWordChar c || isInnerDot c) '>' = false := by decide
  unfold Hashtag.read? at found
  simp only [Option.ite_none_right_eq_some, Option.some.injEq] at found
  obtain ⟨_, rfl⟩ := found
  refine ⟨(dropEndWhile_isStart _ _).trans (List.takeWhile_prefix _), ?_, ?_⟩
  · exact (isUnescaped_takeWhile stops text).of_start (dropEndWhile_isStart _ _)
  · intro member
    exact not_mem_takeWhile (by decide) _ ((dropEndWhile_isStart _ _).subset member)

theorem Mention.isStart_domain (text : List Char) :
    domain text <+: text ∧ IsUnescaped (domain text) ∧ '\n' ∉ domain text := by
  refine ⟨(dropEndWhile_isStart _ _).trans (List.takeWhile_prefix _), ?_, ?_⟩
  · exact (isUnescaped_takeWhile (by decide) text).of_start (dropEndWhile_isStart _ _)
  · intro member
    exact not_mem_takeWhile (by decide) _ ((dropEndWhile_isStart _ _).subset member)

/-- The account after an at sign is a start of the text on one line that holds nothing escaped. -/
theorem Mention.isStart_of_read? {account : List Char}
    (found : Mention.read? before text = some account) :
    account <+: text ∧ IsUnescaped account ∧ '\n' ∉ account := by
  unfold Mention.read? at found
  have plain : IsUnescaped (text.takeWhile fun c => c.isAlphanum || c = '_') :=
    isUnescaped_takeWhile (by decide) text
  have line : '\n' ∉ text.takeWhile fun c => c.isAlphanum || c = '_' := not_mem_takeWhile (by decide) _
  obtain ⟨rest, shape⟩ := List.takeWhile_prefix (l := text) fun c : Char => c.isAlphanum || c = '_'
  generalize text.takeWhile (fun c : Char => c.isAlphanum || c = '_') = user at found shape plain line
  subst shape
  simp only [List.drop_left] at found
  split at found
  · exact absurd found (by simp)
  · split at found
    · rename_i more
      split at found
      · cases found
        exact ⟨List.prefix_append .., plain, line⟩
      · cases found
        obtain ⟨start, plain', line'⟩ := isStart_domain more
        refine ⟨?_, ?_, ?_⟩
        · exact (List.prefix_append_right_inj _).mpr (List.cons_prefix_cons.mpr ⟨rfl, start⟩)
        · exact plain.append (List.forall_mem_cons.mpr ⟨by decide, plain'⟩)
        · exact List.not_mem_append line (List.not_mem_cons_of_ne_of_not_mem (by decide) line')
    · cases found
      exact ⟨List.prefix_append .., plain, line⟩

/-- A sign and an unescaped start of what follows it are a piece of the text. -/
theorem slice_of_sign {sign : Char} {rest name : List Char} (other : sign ≠ '&')
    (written : escapeText text = sign :: rest) (start : name <+: rest) (plain : IsUnescaped name) :
    ∃ after, text = (sign :: name) ++ after ∧ name.length + 1 = (escapeText (sign :: name)).length := by
  obtain ⟨more, rfl, rfl, own⟩ := eq_cons_of_escapeText other written
  obtain ⟨after, rfl⟩ := plain.isStart_of_escapeText start
  have whole : IsUnescaped (sign :: name) := List.forall_mem_cons.mpr ⟨own, plain⟩
  refine ⟨after, rfl, ?_⟩
  rw [escapeText_of_isUnescaped whole, List.length_cons]

/-- A reference without its semicolon is no reference. -/
theorem unescape_openAmpersand : unescape "&amp".toList = "&amp".toList := by
  simp [unescape, reference?, maxReferenceName]

/-- What an entity takes of an escaped text. -/
theorem EntityKind.reads_of_read? {kind : EntityKind} {length : Nat}
    (found : EntityKind.read? .html bare before (escapeText text) = some (kind, length)) :
    (∃ slice after, text = slice ++ after ∧ length = (escapeText slice).length ∧
        kind.Reads slice) ∨
      ∃ slice mark after, text = slice ++ '&' :: mark :: after ∧ Address.isTrailing mark = true ∧
        length = (escapeText slice).length + 4 ∧ kind = .url (slice ++ "&amp".toList) := by
  generalize written : escapeText text = source at found
  cases source with
  | nil => exact absurd found (by simp [EntityKind.read?])
  | cons sign rest =>
    simp only [EntityKind.read?] at found
    split at found
    · rename_i number
      obtain ⟨tag, read, same⟩ := Option.map_eq_some_iff.mp found
      cases same
      have other : sign ≠ '&' := by
        rintro rfl
        exact absurd number (by decide)
      obtain ⟨start, plain, _⟩ := Hashtag.isStart_of_read? read
      obtain ⟨after, whole, sized⟩ := slice_of_sign other written start plain
      exact .inl ⟨sign :: tag, after, whole, sized, sign, number, rfl⟩
    · split at found
      · rename_i at'
        obtain ⟨account, read, same⟩ := Option.map_eq_some_iff.mp found
        cases same
        have other : sign ≠ '&' := by
          rintro rfl
          exact absurd at' (by decide)
        obtain ⟨start, plain, _⟩ := Mention.isStart_of_read? read
        obtain ⟨after, whole, sized⟩ := slice_of_sign other written start plain
        exact .inl ⟨sign :: account, after, whole, sized, sign, at', rfl⟩
      · obtain ⟨address, read, same⟩ := Option.map_eq_some_iff.mp found
        cases same
        rw [← written] at read
        rcases (Address.trimmed_read? read).forwards with
          ⟨slice, after, whole, rfl⟩ | ⟨slice, mark, after, whole, trailing, rfl⟩
        · exact .inl ⟨slice, after, whole, rfl, unescape_escapeText slice⟩
        · refine .inr ⟨slice, mark, after, whole, trailing, List.length_append, ?_⟩
          rw [if_pos trivial, unescape_escapeText_append, unescape_openAmpersand]

end PostMarkup
