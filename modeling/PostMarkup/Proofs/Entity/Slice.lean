import PostMarkup.Proofs.Entity.Reading

/-! # The entities of an escaped text

Every entity of an escaped text stands for a slice of the text: its span covers the escaped form of
the slice, and what stands in it is the slice. The exception is an address that ends in an ampersand
before punctuation, whose span ends before the semicolon of the reference.
-/

namespace PostMarkup

open PostMarkup.Text PostMarkup.Unicode

/-- Whether an entity covers the escaped form of a slice of a text and reads as this slice. -/
def Entity.Covers (text : List Char) (entity : Entity) : Prop :=
  ∃ before slice after, text = before ++ slice ++ after ∧
    entity.span.start = (escapeText before).length ∧
    entity.span.stop = (escapeText (before ++ slice)).length ∧ entity.kind.Reads slice

/-- Whether an entity is an address up to an ampersand before punctuation that ends before the
semicolon of the ampersand's reference, so that its reference is read as text. -/
def Entity.LosesSemicolon (text : List Char) (entity : Entity) : Prop :=
  ∃ before slice mark after, text = before ++ slice ++ '&' :: mark :: after ∧
    Address.isTrailing mark = true ∧ entity.span.start = (escapeText before).length ∧
    entity.span.stop = (escapeText (before ++ slice)).length + 4 ∧
    entity.kind = .url (slice ++ "&amp".toList)

variable {form : TextForm} {bare : Bool} {position : Nat} {before rest : List Char} {c : Char}

/-- An address that may not start after the text before it is not read. -/
theorem EntityKind.read?_of_blocked (blocked : Address.blockedBy before = true)
    (unsigned : c ∉ "#＃@＠".toList) : EntityKind.read? form bare before (c :: rest) = none := by
  have signs : (c ≠ '#' ∧ c ≠ '＃') ∧ c ≠ '@' ∧ c ≠ '＠' := by simpa [and_assoc] using unsigned
  simp [EntityKind.read?, Address.read?, blocked, signs]

/-- An entity takes at least one character. -/
theorem EntityKind.length_pos {kind : EntityKind} {length : Nat}
    (found : EntityKind.read? form bare before (c :: rest) = some (kind, length)) : 0 < length := by
  simp only [EntityKind.read?] at found
  split at found
  · obtain ⟨tag, _, same⟩ := Option.map_eq_some_iff.mp found
    cases same
    exact Nat.succ_pos _
  · split at found
    · obtain ⟨account, _, same⟩ := Option.map_eq_some_iff.mp found
      cases same
      exact Nat.succ_pos _
    · obtain ⟨address, read, same⟩ := Option.map_eq_some_iff.mp found
      cases same
      unfold Address.read? at read
      split at read
      · exact absurd read (by simp)
      · obtain ⟨scheme, _, read⟩ := Option.bind_eq_some_iff.mp read
        simp only [Option.ite_none_left_eq_some, Option.some.injEq] at read
        obtain ⟨_, longer, rfl⟩ := read
        omega

/-- No entity starts with a character that is no letter, no digit and no sign of a hashtag or mention. -/
theorem EntityKind.read?_of_mark (unsigned : c ∉ "#＃@＠".toList) (other : c.isAlphanum = false) :
    EntityKind.read? form bare before (c :: rest) = none := by
  have signs : (c ≠ '#' ∧ c ≠ '＃') ∧ c ≠ '@' ∧ c ≠ '＠' := by simpa [and_assoc] using unsigned
  have small : c.toLower ≠ 'h' := by
    rw [toLower_of_not_isAlphanum other]
    rintro rfl
    exact absurd other (by decide)
  have unschemed : Address.schemeLength? bare (c :: rest) = none := by
    simp [Address.schemeLength?, startsIgnoringCase, lowerAscii, small, other]
  simp [EntityKind.read?, Address.read?, signs, unschemed]

namespace Entity

theorem scan_skip (other : c ≠ '<') (none : EntityKind.read? form bare before (c :: rest) = none) :
    scan form bare position before (c :: rest) =
      scan form bare (position + 1) (c :: before) rest := by
  rw [scan, if_neg (by simp [other]), none]

theorem scan_read (position : Nat) {kind : EntityKind} {length : Nat} (other : c ≠ '<') (positive : 0 < length)
    (found : EntityKind.read? form bare before (c :: rest) = some (kind, length)) :
    scan form bare position before (c :: rest) =
      ⟨kind, position, position + length⟩ ::
        scan form bare (position + length) (((c :: rest).take length).reverse ++ before)
          ((c :: rest).drop length) := by
  rw [scan, if_neg (by simp [other]), found]
  obtain ⟨further, rfl⟩ := Nat.exists_eq_succ_of_ne_zero (Nat.ne_of_gt positive)
  simp

theorem scan_blocked (blocked : Address.blockedBy before = true) (unsigned : c ∉ "<#＃@＠".toList) :
    scan form bare position before (c :: rest) =
      scan form bare (position + 1) (c :: before) rest := by
  obtain ⟨other, signs⟩ : c ≠ '<' ∧ c ∉ "#＃@＠".toList := by simpa using unsigned
  exact scan_skip other (EntityKind.read?_of_blocked blocked signs)

/-- Between the first and the last character of a word nothing is found. -/
theorem scan_word {letter last : Char} {body : List Char}
    (blocks : ∀ d ∈ letter :: body, Address.blockedBy [d] = true)
    (unsigned : ∀ d ∈ body ++ [last], d ∉ "<#＃@＠".toList) :
    scan form bare position (letter :: before) (body ++ last :: rest) =
      scan form bare (position + (body.length + 1)) (last :: (body.reverse ++ letter :: before)) rest := by
  induction body generalizing letter position before with
  | nil =>
    have blocked : Address.blockedBy (letter :: before) = true := blocks letter List.mem_cons_self
    exact scan_blocked blocked (unsigned last List.mem_cons_self)
  | cons c others ih =>
    have blocked : Address.blockedBy (letter :: before) = true := blocks letter List.mem_cons_self
    obtain ⟨first, unsigned'⟩ := List.forall_mem_cons.mp unsigned
    rw [List.cons_append, scan_blocked blocked first, ih (List.forall_mem_cons.mp blocks).2 unsigned']
    simp [Nat.add_comm, Nat.add_left_comm]

/-- The reference of an escaped character holds no entity and starts none. -/
theorem scan_escapeChar (escaped : escapeChar c ≠ [c]) :
    scan .html bare position before (escapeChar c ++ rest) =
      scan .html bare (position + (escapeChar c).length) ((escapeChar c).reverse ++ before) rest := by
  obtain ⟨letter, body, written, unread, other, blocks, unsigned⟩ : ∃ letter body,
      escapeChar c = '&' :: letter :: (body ++ [';']) ∧
      EntityKind.read? .html bare ('&' :: before) (letter :: (body ++ ';' :: rest)) = none ∧
      letter ≠ '<' ∧ (∀ d ∈ letter :: body, Address.blockedBy [d] = true) ∧
      ∀ d ∈ body ++ [';'], d ∉ "<#＃@＠".toList := by
    rcases escapeChar_eq c with own | ⟨rfl, written⟩ | ⟨rfl, written⟩ | ⟨rfl, written⟩
    · exact absurd own escaped
    · exact ⟨'a', ['m', 'p'], written, by cases bare <;> rfl, by decide, by decide, by decide⟩
    · exact ⟨'l', ['t'], written, by cases bare <;> rfl, by decide, by decide, by decide⟩
    · exact ⟨'g', ['t'], written, by cases bare <;> rfl, by decide, by decide, by decide⟩
  have shape : escapeChar c ++ rest = '&' :: letter :: (body ++ ';' :: rest) := by
    simp [written]
  have size : position + 1 + 1 + (body.length + 1) = position + (escapeChar c).length := by
    rw [written]
    simp only [List.length_cons, List.length_append, List.length_nil]
    omega
  rw [shape, scan_skip (by decide) (EntityKind.read?_of_mark (by decide) (by decide)), scan_skip other unread,
    scan_word blocks unsigned, size, written]
  simp

/-- What one step of a scan finds at a position when it consumes the escaped form of a slice: an
entity that covers and reads as the slice, or, if the slice ends in an ampersand before punctuation,
an address without the semicolon of the ampersand's reference. -/
inductive Taken (position : Nat) (slice after : List Char) : Entity → Prop
  | whole {kind : EntityKind} : kind.Reads slice →
      Taken position slice after ⟨kind, position, position + (escapeText slice).length⟩
  | cut {front rest : List Char} {mark : Char} : slice = front ++ ['&'] → after = mark :: rest →
      Address.isTrailing mark = true → Taken position slice after
        ⟨.url (front ++ "&amp".toList), position, position + ((escapeText front).length + 4)⟩

/-- An entity that is read at the start of an escaped text is taken from the text. -/
theorem scan_taken {text : List Char} {kind : EntityKind} {length : Nat} (position : Nat)
    (positive : 0 < length)
    (found : EntityKind.read? .html bare before (escapeText text) = some (kind, length)) :
    ∃ slice after passed, slice ≠ [] ∧ text = slice ++ after ∧
      Taken position slice after ⟨kind, position, position + length⟩ ∧
      scan .html bare (position + length) (((escapeText text).take length).reverse ++ before)
          ((escapeText text).drop length) =
        scan .html bare (position + (escapeText slice).length) passed (escapeText after) := by
  rcases EntityKind.reads_of_read? found with
    ⟨slice, after, rfl, rfl, reads⟩ | ⟨front, mark, after, rfl, trailing, rfl, rfl⟩
  · have nonempty : slice ≠ [] := by
      rintro rfl
      exact Nat.lt_irrefl 0 positive
    refine ⟨slice, after, (escapeText slice).reverse ++ before, nonempty, rfl, .whole reads, ?_⟩
    rw [escapeText_append, List.take_left, List.drop_left]
  · have start : escapeText (front ++ '&' :: mark :: after) =
        (escapeText front ++ "&amp".toList) ++ ';' :: escapeText (mark :: after) := by
      rw [escapeText_append, List.append_assoc]
      rfl
    have sized : (escapeText front).length + 4 = (escapeText front ++ "&amp".toList).length := by
      rw [List.length_append]
      rfl
    refine ⟨front ++ ['&'], mark :: after,
      ';' :: ("&amp".toList.reverse ++ ((escapeText front).reverse ++ before)), by simp, by simp,
      .cut rfl rfl trailing, ?_⟩
    rw [start, sized, List.take_left, List.drop_left, List.reverse_append, List.append_assoc,
      scan_blocked rfl (by decide), escapeText_append, ← sized, List.length_append]
    rfl

/-- One step of a scan of escaped text consumes the escaped form of a nonempty slice and finds at
most one entity, which is taken from it. -/
theorem scan_step (bare : Bool) (position : Nat) (before : List Char) (c : Char) (more : List Char) :
    ∃ slice after passed found, slice ≠ [] ∧ c :: more = slice ++ after ∧
      (∀ entity ∈ found, Taken position slice after entity) ∧
      scan .html bare position before (escapeText (c :: more)) =
        found ++ scan .html bare (position + (escapeText slice).length) passed (escapeText after) := by
  have skipped (passed : List Char) (scanned : scan .html bare position before (escapeText (c :: more)) =
      scan .html bare (position + (escapeChar c).length) passed (escapeText more)) :
      ∃ slice after passed found, slice ≠ [] ∧ c :: more = slice ++ after ∧
        (∀ entity ∈ found, Taken position slice after entity) ∧
        scan .html bare position before (escapeText (c :: more)) = found ++
          scan .html bare (position + (escapeText slice).length) passed (escapeText after) := by
    refine ⟨[c], more, passed, [], by simp, rfl, by simp, ?_⟩
    rw [scanned, escapeText_cons, escapeText_nil, List.append_nil, List.nil_append]
  by_cases own : escapeChar c = [c]
  · have other : c ≠ '<' := by
      rintro rfl
      exact absurd own (by decide)
    have written : escapeText (c :: more) = c :: escapeText more := by
      rw [escapeText_cons, own, List.singleton_append]
    cases took : EntityKind.read? .html bare before (c :: escapeText more) with
    | none =>
      apply skipped (c :: before)
      rw [written, scan_skip other took, own, List.length_singleton]
    | some taken =>
      obtain ⟨kind, length⟩ := taken
      have scanned := scan_read position other (EntityKind.length_pos took) took
      rw [← written] at scanned
      obtain ⟨slice, after, passed, nonempty, whole, taken, same⟩ :=
        scan_taken position (EntityKind.length_pos took) (written ▸ took)
      refine ⟨slice, after, passed, [⟨kind, position, position + length⟩], nonempty, whole, ?_, ?_⟩
      · simpa using taken
      · rw [scanned, same]
        rfl
  · exact skipped _ (scan_escapeChar own)

/-- Every entity found in the rest of an escaped text covers a slice of the text or has lost a
semicolon. -/
theorem covers_or_loses_of_mem_scan {entity : Entity} (read rest : List Char)
    (found : entity ∈ scan .html bare (escapeText read).length before (escapeText rest)) :
    Covers (read ++ rest) entity ∨ LosesSemicolon (read ++ rest) entity := by
  induction size : rest.length using Nat.strong_induction_on generalizing read before rest with
  | _ size ih =>
    subst size
    cases rest with
    | nil => exact absurd found (by simp [scan])
    | cons c more =>
      obtain ⟨slice, after, passed, entities, nonempty, whole, taken, scanned⟩ :=
        scan_step bare (escapeText read).length before c more
      rw [scanned, List.mem_append] at found
      rw [whole]
      rcases found with now | later
      · cases taken entity now with
        | whole reads =>
          refine .inl ⟨read, slice, after, (List.append_assoc ..).symm, rfl, ?_, reads⟩
          rw [escapeText_append, List.length_append]
        | @cut front rest mark ends follows trailing =>
          refine .inr ⟨read, front, mark, rest, ?_, trailing, rfl, ?_, rfl⟩
          · rw [ends, follows]
            simp
          · rw [escapeText_append, List.length_append, Nat.add_assoc]
      · rw [← List.length_append, ← escapeText_append] at later
        have shorter : after.length < (c :: more).length := by
          have sized := congrArg List.length whole
          have positive := List.length_pos_iff.mpr nonempty
          rw [List.length_append] at sized
          omega
        rw [← List.append_assoc]
        exact ih after.length shorter (read ++ slice) after later rfl

theorem mem_of_mem_selectFrom {entity : Entity} {entities : List Entity} (last : Option Entity)
    (selected : entity ∈ selectFrom last entities) : entity ∈ entities := by
  induction entities generalizing last with
  | nil => exact selected
  | cons first rest ih =>
    unfold selectFrom at selected
    split at selected
    · exact List.mem_cons_of_mem _ (ih last selected)
    · rcases List.mem_cons.mp selected with rfl | later
      · exact List.mem_cons_self
      · exact List.mem_cons_of_mem _ (ih _ later)

theorem mem_scan_of_mem_extract {entity : Entity} {text : List Char}
    (found : entity ∈ extract form bare text) : entity ∈ scan form bare 0 [] text :=
  List.mem_mergeSort.mp (mem_of_mem_selectFrom none found)

theorem covers_or_loses_of_mem_extract {entity : Entity} {text : List Char}
    (found : entity ∈ extract .html bare (escapeText text)) :
    Covers text entity ∨ LosesSemicolon text entity :=
  covers_or_loses_of_mem_scan [] text (mem_scan_of_mem_extract found)

/-- An address that has lost a semicolon covers no slice that it reads as, because the letters of
its reference would be longer when escaped again. -/
theorem not_covers_of_loses {entity : Entity} {text : List Char}
    (loses : LosesSemicolon text entity) : ¬ Covers text entity := by
  obtain ⟨before, slice, _, _, _, _, start, stop, address⟩ := loses
  rintro ⟨before', slice', _, _, start', stop', reads⟩
  have payload : slice ++ "&amp".toList = slice' := by
    rw [address] at reads
    exact reads
  rw [start] at start'
  rw [stop, ← payload, escapeText_append, escapeText_append, escapeText_append] at stop'
  simp only [List.length_append] at stop'
  have longer : (escapeText "&amp".toList).length = 8 := rfl
  omega

/-- Every entity of an escaped text covers exactly the escaped form of a slice of the text and reads
as this slice, unless it is an address that ends in an ampersand before punctuation and has lost the
semicolon of the ampersand's reference. -/
theorem covers_iff_of_mem_extract (bare : Bool) (text : List Char) (entity : Entity)
    (found : entity ∈ extract .html bare (escapeText text)) :
    Covers text entity ↔ ¬ LosesSemicolon text entity := by
  constructor
  · intro covers loses
    exact not_covers_of_loses loses covers
  · intro whole
    rcases covers_or_loses_of_mem_extract found with covers | loses
    · exact covers
    · exact absurd loses whole

/-- A hashtag before an ampersand is found whole. -/
theorem covers_iff_hashtag :
    ⟨.hashtag "ab".toList, 0, 3⟩ ∈ extract .html true (escapeText "#ab&".toList) ∧
      (Covers "#ab&".toList ⟨.hashtag "ab".toList, 0, 3⟩ ↔
        ¬ LosesSemicolon "#ab&".toList ⟨.hashtag "ab".toList, 0, 3⟩) := by
  have found : ⟨.hashtag "ab".toList, 0, 3⟩ ∈ extract .html true (escapeText "#ab&".toList) := by
    have took : EntityKind.read? .html true [] ('#' :: "ab&amp;".toList) =
        some (.hashtag "ab".toList, 3) := rfl
    have nothing : scan .html true 3 "ba#".toList (escapeChar '&' ++ []) = [] := by
      rw [scan_escapeChar (by decide), scan]
    have scanned : scan .html true 0 [] (escapeText "#ab&".toList) =
        [⟨.hashtag "ab".toList, 0, 3⟩] :=
      (scan_read 0 (by decide) (by decide) took).trans (congrArg _ nothing)
    rw [extract, scanned, selectDisjoint, inOrder, List.mergeSort_singleton]
    exact List.mem_singleton_self _
  exact ⟨found, covers_iff_of_mem_extract true _ _ found⟩

/-- The full stop after an ampersand at the end of an address takes the semicolon of the ampersand's
reference with it. -/
theorem not_covers_ampersand_stop :
    ∃ entity ∈ extract .html false (escapeText "https://a.b/&.".toList),
      ¬ Covers "https://a.b/&.".toList entity := by
  have trimmed : Address.trim .html "https://a.b/&amp;.".toList = "https://a.b/&amp".toList := by
    have once : Address.trimOnce "https://a.b/&amp;.".toList.reverse =
        Address.reversedCut "https://a.b/".toList := rfl
    rw [Address.trim, Address.trimReversed, if_neg (by decide), once, if_pos (by decide),
      Address.trimReversed_reversedCut]
    rfl
  have took : EntityKind.read? .html false [] ('h' :: "ttps://a.b/&amp;.".toList) =
      some (.url "https://a.b/&amp".toList, 16) := by
    have address : Address.read? .html false [] ('h' :: "ttps://a.b/&amp;.".toList) =
        if (Address.trim .html "https://a.b/&amp;.".toList).length ≤ 8 then none
        else some (Address.trim .html "https://a.b/&amp;.".toList) := rfl
    have payload : unescape "https://a.b/&amp".toList = "https://a.b/&amp".toList :=
      (unescape_escapeText_append "https://a.b/".toList "&amp".toList).trans
        (congrArg _ unescape_openAmpersand)
    rw [trimmed, if_neg (by decide)] at address
    simp only [EntityKind.read?, address, Option.map_some, payload]
    rfl
  have nothing : scan .html false 16 ('p' :: "ma&/b.a//:sptth".toList) [';', '.'] = [] := by
    rw [scan_blocked rfl (by decide), scan_skip (by decide) rfl, scan]
  have scanned : scan .html false 0 [] (escapeText "https://a.b/&.".toList) =
      [⟨.url "https://a.b/&amp".toList, 0, 16⟩] :=
    (scan_read 0 (by decide) (by decide) took).trans (congrArg _ nothing)
  refine ⟨⟨.url "https://a.b/&amp".toList, 0, 16⟩, ?_, not_covers_of_loses ?_⟩
  · rw [extract, scanned, selectDisjoint, inOrder, List.mergeSort_singleton]
    exact List.mem_singleton_self _
  · exact ⟨[], "https://a.b/".toList, '.', [], rfl, rfl, rfl, rfl, rfl⟩

end Entity
end PostMarkup
