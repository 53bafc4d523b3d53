import PostMarkup.Proofs.Entity.Plain
import PostMarkup.Proofs.Entity.Reach

/-! # The entities of several lines

No reader of an entity looks over a line feed, neither in the text before the entity nor in the text
after it, and no entity holds one. So the entities of two texts with a line feed between them are those
of the first text and, moved behind it, those of the second.
-/

namespace PostMarkup

open PostMarkup.Text PostMarkup.Unicode

variable {form : TextForm} {bare : Bool} {before left : List Char} {keep : Char → Bool}

/-- A run of characters that a line feed ends is the same whatever the text after the line feed is. -/
theorem takeWhile_append_newline (stops : keep '\n' = false) (left right : List Char) :
    (left ++ '\n' :: right).takeWhile keep = left.takeWhile keep := by
  induction left with
  | nil => simp [stops]
  | cons c rest ih => rw [List.cons_append, List.takeWhile_cons, List.takeWhile_cons, ih]

theorem startsIgnoringCase_append_newline {word : List Char} (line : '\n' ∉ word) (left right : List Char) :
    startsIgnoringCase word (left ++ '\n' :: right) = startsIgnoringCase word left := by
  induction word generalizing left with
  | nil => rfl
  | cons w others ih =>
    obtain ⟨differs, further⟩ := List.ne_and_not_mem_of_not_mem_cons line
    cases left with
    | nil =>
      have other : ('\n' == w) = false := beq_eq_false_iff_ne.mpr differs
      simp [startsIgnoringCase, lowerAscii, other]
    | cons c rest =>
      have same := ih further rest
      unfold startsIgnoringCase lowerAscii at same ⊢
      simp only [List.cons_append, List.length_cons, List.take_succ_cons, List.map_cons, List.cons_beq_cons, same]

theorem Hashtag.read?_append_newline (before left right : List Char) :
    read? form before (left ++ '\n' :: right) = read? form before left := by
  unfold read?
  rw [takeWhile_append_newline (by decide)]

theorem Mention.domain_append_newline (left right : List Char) :
    domain (left ++ '\n' :: right) = domain left := by
  unfold domain
  rw [takeWhile_append_newline (by decide)]

theorem Mention.read?_append_newline (before left right : List Char) :
    read? before (left ++ '\n' :: right) = read? before left := by
  have within := (List.takeWhile_sublist (l := left) fun c : Char => c.isAlphanum || c = '_').length_le
  unfold read?
  rw [takeWhile_append_newline (by decide)]
  simp only [List.drop_append_of_le_length within]
  -- what follows the name of a user is the end of the first text or a character of it
  cases left.drop (left.takeWhile fun c => c.isAlphanum || c = '_').length with
  | nil => rfl
  | cons c rest =>
    by_cases sign : c = '@'
    · subst sign
      simp only [List.cons_append, domain_append_newline]
    · simp [sign]

namespace Address

theorem schemeLength?_append_newline (bare : Bool) (left right : List Char) :
    schemeLength? bare (left ++ '\n' :: right) = schemeLength? bare left := by
  have first : (left ++ '\n' :: right).head?.any Char.isAlphanum = left.head?.any Char.isAlphanum := by
    cases left with
    | nil => rfl
    | cons c rest => rfl
  unfold schemeLength?
  rw [startsIgnoringCase_append_newline (by decide), startsIgnoringCase_append_newline (by decide), first]

theorem host_append_newline (left right : List Char) : host (left ++ '\n' :: right) = host left := by
  unfold host
  rw [takeWhile_append_newline (by decide)]

theorem siteLength?_append_newline (bare : Bool) (before left right : List Char) :
    siteLength? bare before (left ++ '\n' :: right) = siteLength? bare before left := by
  unfold siteLength?
  rw [schemeLength?_append_newline]
  cases schemed : schemeLength? bare left with
  | none => rfl
  | some scheme =>
    obtain ⟨lead, rest, rfl, _, rfl⟩ := exists_of_schemeLength? schemed
    simp only [Option.bind_some, List.append_assoc, List.drop_left, host_append_newline]

/-- In plain text an address goes on or not at a character whatever follows it. -/
theorem run_plain (text : List Char) : run .plain text = text.takeWhile fun c => continues .plain [c] := by
  induction text with
  | nil => rfl
  | cons c rest ih =>
    have alone : continues .plain (c :: rest) = continues .plain [c] := rfl
    rw [run, alone, List.takeWhile_cons, ih]

theorem read?_append_newline (bare : Bool) (before left right : List Char) :
    read? .plain bare before (left ++ '\n' :: right) = read? .plain bare before left := by
  rw [read?_eq_map_trim, read?_eq_map_trim, siteLength?_append_newline]
  cases site : siteLength? bare before left with
  | none => rfl
  | some length =>
    obtain ⟨front, c, rest, rfl, rfl, _⟩ := exists_of_siteLength? site
    simp only [Option.map_some, reach, List.append_assoc _ rest, List.take_left, List.drop_left, run_plain]
    rw [takeWhile_append_newline (by rfl)]

end Address

/-- What is read in front of a line feed does not depend on the text after it. -/
theorem EntityKind.read?_append_newline (bare : Bool) (before left right : List Char) :
    EntityKind.read? .plain bare before (left ++ '\n' :: right) = EntityKind.read? .plain bare before left := by
  cases left with
  | nil =>
    rw [List.nil_append, EntityKind.read?_of_mark (by decide) (by decide)]
    rfl
  | cons c rest =>
    have address := Address.read?_append_newline bare before (c :: rest) right
    rw [List.cons_append] at address ⊢
    rw [EntityKind.read?, EntityKind.read?, Hashtag.read?_append_newline, Mention.read?_append_newline, address]

theorem any_head?_append_newline {stands : Char → Bool} (free : stands '\n' = false) (before far : List Char) :
    (before ++ '\n' :: far).head?.any stands = before.head?.any stands := by
  cases before with
  | nil => exact free
  | cons c rest => rfl

/-- What is read behind a line feed does not depend on the text before it. -/
theorem EntityKind.read?_behind_newline (bare : Bool) (before far text : List Char) :
    EntityKind.read? .plain bare (before ++ '\n' :: far) text = EntityKind.read? .plain bare before text := by
  have hashtag : Hashtag.blockedBy .plain (before ++ '\n' :: far) = Hashtag.blockedBy .plain before := by
    unfold Hashtag.blockedBy
    rw [any_head?_append_newline (by decide)]
    rfl
  have mention : Mention.blockedBy (before ++ '\n' :: far) = Mention.blockedBy before :=
    any_head?_append_newline (by decide) before far
  have address : Address.blockedBy (before ++ '\n' :: far) = Address.blockedBy before :=
    any_head?_append_newline (by decide) before far
  cases text with
  | nil => rfl
  | cons c rest =>
    simp only [EntityKind.read?, Hashtag.read?, Mention.read?, Address.read?, hashtag, mention, address]

namespace Entity

def moved (offset : Nat) (entity : Entity) : Entity :=
  { entity with span := ⟨entity.span.start + offset, entity.span.stop + offset⟩ }

/-- A scan of a text that starts further on finds the same, further on. -/
theorem scan_moved (form : TextForm) (bare : Bool) (position offset : Nat) (before text : List Char) :
    scan form bare (position + offset) before text = (scan form bare position before text).map (moved offset) := by
  fun_induction scan form bare position before text with
  | case1 => rw [scan, List.map_nil]
  | case2 position before c rest less taken ih =>
    have start : position + offset + 1 + taken = position + 1 + taken + offset := by omega
    rw [scan, if_pos less, ← ih, ← start]
  | case3 position before c rest other kind length read ih =>
    rw [scan, if_neg other, read, List.map_cons, ← ih]
    have start : position + offset + length = position + length + offset := by omega
    simp only [start]
    rfl
  | case4 position before c rest other nothing ih =>
    rw [scan, if_neg other, nothing, ← ih]
    simp only [Nat.add_right_comm]

theorem scan_behind_newline (bare : Bool) (position : Nat) (before far text : List Char) :
    scan .plain bare position (before ++ '\n' :: far) text = scan .plain bare position before text := by
  fun_induction scan .plain bare position before text with
  | case1 => rw [scan]
  | case2 position before c rest html => exact absurd html.1 (by simp)
  | case3 position before c rest other kind length read ih =>
    rw [scan, if_neg other, EntityKind.read?_behind_newline, read, ← ih, List.append_assoc]
    rfl
  | case4 position before c rest other nothing ih =>
    rw [scan, if_neg other, EntityKind.read?_behind_newline, nothing, ← ih]
    rfl

/-- A scan goes over a text and a line feed, and then over the text after the line feed. -/
theorem scan_append_newline (bare : Bool) (position : Nat) (before left right : List Char) :
    scan .plain bare position before (left ++ '\n' :: right) = scan .plain bare position before left ++
      scan .plain bare (position + (left.length + 1)) ('\n' :: (left.reverse ++ before)) right := by
  fun_induction scan .plain bare position before left with
  | case1 position before =>
    have nothing := EntityKind.read?_append_newline bare before [] right
    rw [List.nil_append] at nothing ⊢
    rw [scan, if_neg (by simp), nothing]
    rfl
  | case2 position before c rest html => exact absurd html.1 (by simp)
  | case3 position before c rest other kind length read ih =>
    obtain ⟨slice, after, whole, rfl, stands⟩ := EntityKind.standsFor_of_read? read
    obtain ⟨d, more, rfl⟩ := List.exists_cons_of_length_pos stands.length_pos
    rw [List.cons_append] at whole
    obtain ⟨rfl, rfl⟩ := List.cons.inj whole
    have same := EntityKind.read?_append_newline bare before (c :: (more ++ after)) right
    have stop : position + (c :: more).length + (after.length + 1) =
        position + ((c :: (more ++ after)).length + 1) := by
      simp only [List.length_cons, List.length_append]
      omega
    simp only [List.length_cons, Nat.add_sub_cancel, List.take_left, List.drop_left] at ih
    rw [read, List.cons_append] at same
    rw [List.cons_append, scan, if_neg other, same, ← stop]
    simp [ih]
  | case4 position before c rest other nothing ih =>
    have same := EntityKind.read?_append_newline bare before (c :: rest) right
    rw [nothing, List.cons_append] at same
    rw [List.cons_append, scan, if_neg other, same]
    simp [ih, Nat.add_assoc, Nat.add_comm 1]

/-- The entities of two texts with a line feed between them are those of the first and, moved behind the
line feed, those of the second. -/
theorem extract_append_newline (bare : Bool) (left right : List Char) :
    extract .plain bare (left ++ '\n' :: right) =
      extract .plain bare left ++ (extract .plain bare right).map (moved (left.length + 1)) := by
  have behind := scan_behind_newline bare (0 + (left.length + 1)) [] (left.reverse ++ []) right
  rw [extract_eq_scan, extract_eq_scan, extract_eq_scan, scan_append_newline, ← scan_moved, ← behind]
  rfl

end Entity

end PostMarkup
