import PostMarkup.Proofs.Entity.Order

/-! # How far an address reaches

An address has a site, a scheme and a host, and reaches over all that continues it. What trimming
drops from its end is idle: no entity starts there, so a scan goes on from the end of the reach
wherever the address was trimmed. Trimming never drops a part of the site.
-/

namespace PostMarkup

open PostMarkup.Text PostMarkup.Unicode

variable {form : TextForm} {bare : Bool} {position length : Nat} {before text rest gone : List Char} {c : Char}

namespace Address

/-- Whether a character may be dropped from the end of an address. -/
def isDroppable (c : Char) : Bool := isTrailing c || (brackets.map Prod.snd).contains c

/-- Text that may be dropped from the end of an address. In markup the reference of an ampersand is
dropped as a whole. -/
inductive Idle (form : TextForm) : List Char → Prop
  | nil : Idle form []
  | mark {c : Char} {rest : List Char} : isDroppable c = true → Idle form rest → Idle form (c :: rest)
  | reference {rest : List Char} : form = .html → Idle form rest → Idle form ("&amp;".toList ++ rest)

theorem Idle.append {left right : List Char} (first : Idle form left) (second : Idle form right) :
    Idle form (left ++ right) := by
  induction first with
  | nil => exact second
  | mark drops _ ih => exact .mark drops ih
  | @reference rest html _ ih =>
    rw [List.append_assoc]
    exact .reference html ih

theorem idle_of_forall (drops : ∀ c ∈ text, isDroppable c = true) : Idle form text := by
  induction text with
  | nil => exact .nil
  | cons c rest ih =>
    obtain ⟨first, others⟩ := List.forall_mem_cons.mp drops
    exact .mark first (ih others)

/-- A character that is not dropped stays, unless it belongs to the reference of an ampersand. -/
theorem Idle.not_append_cons {front more : List Char} (stays : isDroppable c = false)
    (plain : '&' ∉ front ++ [c]) : ¬Idle form (front ++ c :: more) := by
  intro idle
  generalize same : front ++ c :: more = gone at idle
  induction idle generalizing front with
  | nil => exact absurd same (by simp)
  | @mark d rest drops _ ih =>
    cases front with
    | nil =>
      obtain ⟨rfl, _⟩ := List.cons.inj same
      exact absurd drops (by simp [stays])
    | cons e others => exact ih (fun inside => plain (List.mem_cons_of_mem _ inside)) (List.cons.inj same).2
  | reference _ _ _ =>
    cases front with
    | nil =>
      obtain ⟨rfl, _⟩ := List.cons.inj same
      exact plain (List.mem_singleton_self _)
    | cons e others =>
      obtain ⟨rfl, _⟩ := List.cons.inj same
      exact plain List.mem_cons_self

/-- No address starts with a character that may be dropped from the end of one. -/
theorem read?_of_isDroppable (drops : isDroppable c = true) :
    EntityKind.read? form bare before (c :: rest) = none ∧ c ≠ '<' := by
  have listed : c ∈ ".,;:!?*)]\x7d".toList := by
    simpa [isDroppable, isTrailing, brackets, or_assoc] using drops
  have marks : ∀ d ∈ ".,;:!?*)]\x7d".toList, d ∉ "#＃@＠".toList ∧ d.isAlphanum = false ∧ d ≠ '<' := by decide
  obtain ⟨unsigned, other, text⟩ := marks c listed
  exact ⟨EntityKind.read?_of_mark unsigned other, text⟩

end Address

/-- A scan finds nothing in idle text. -/
theorem Entity.scan_idle (idle : Address.Idle form gone) :
    scan form bare position before (gone ++ rest) =
      scan form bare (position + gone.length) (gone.reverse ++ before) rest := by
  induction idle generalizing position before with
  | nil => rfl
  | @mark c others drops _ ih =>
    obtain ⟨nothing, other⟩ := Address.read?_of_isDroppable drops
    rw [List.cons_append, scan_skip other nothing, ih, List.reverse_cons, List.append_assoc,
      List.length_cons, Nat.add_assoc, Nat.add_comm 1]
    rfl
  | @reference others html _ ih =>
    subst html
    have written : escapeChar '&' = "&amp;".toList := rfl
    rw [List.append_assoc, ← written, scan_escapeChar (by decide), ih, List.reverse_append,
      List.append_assoc, List.length_append, Nat.add_assoc]

namespace Address

theorem exists_of_dropUnpaired (close : Char) (opens closes : Nat) (address : List Char) :
    ∃ gone, address = gone ++ dropUnpaired close opens closes address ∧ ∀ c ∈ gone, c = close := by
  induction address generalizing closes with
  | nil => exact ⟨[], rfl, by simp⟩
  | cons c rest ih =>
    unfold dropUnpaired
    split
    · rename_i closing
      obtain ⟨gone, split, same⟩ := ih (closes - 1)
      exact ⟨c :: gone, congrArg _ split, List.forall_mem_cons.mpr ⟨closing.1, same⟩⟩
    · exact ⟨[], rfl, by simp⟩

theorem exists_of_trimBracket {pair : Char × Char} (listed : pair ∈ brackets) (address : List Char) :
    ∃ gone, address = gone ++ trimBracket address pair ∧ ∀ c ∈ gone, isDroppable c = true := by
  obtain ⟨gone, split, closes⟩ := exists_of_dropUnpaired pair.2 (address.count pair.1) (address.count pair.2) address
  refine ⟨gone, split, ?_⟩
  intro c member
  have closing : pair.2 ∈ brackets.map Prod.snd := List.mem_map_of_mem listed
  simp only [closes c member, isDroppable, Bool.or_eq_true, List.contains_iff_mem]
  exact .inr closing

theorem exists_of_trimBrackets (pairs : List (Char × Char)) (listed : pairs ⊆ brackets) (address : List Char) :
    ∃ gone, address = gone ++ pairs.foldl trimBracket address ∧ ∀ c ∈ gone, isDroppable c = true := by
  induction pairs generalizing address with
  | nil => exact ⟨[], rfl, by simp⟩
  | cons pair others ih =>
    obtain ⟨first, further⟩ := List.cons_subset.mp listed
    obtain ⟨gone, split, drops⟩ := exists_of_trimBracket first address
    obtain ⟨gone', split', drops'⟩ := ih further (trimBracket address pair)
    refine ⟨gone ++ gone', ?_, List.forall_mem_append.mpr ⟨drops, drops'⟩⟩
    rw [List.foldl_cons, List.append_assoc, ← split', ← split]

theorem exists_of_trimOnce (address : List Char) :
    ∃ gone, address = gone ++ trimOnce address ∧ ∀ c ∈ gone, isDroppable c = true := by
  obtain ⟨gone, split, drops⟩ := exists_of_trimBrackets brackets (fun _ => id) (address.dropWhile isTrailing)
  refine ⟨address.takeWhile isTrailing ++ gone, ?_, List.forall_mem_append.mpr ⟨?_, drops⟩⟩
  · rw [trimOnce, List.append_assoc, ← split, List.takeWhile_append_dropWhile]
  · intro c member
    have trailing : isTrailing c = true := List.all_eq_true.mp List.all_takeWhile c member
    simp [isDroppable, trailing]

theorem exists_of_trimReversed (form : TextForm) (address : List Char) :
    ∃ gone, address = gone ++ trimReversed form address ∧ Idle form gone.reverse := by
  fun_induction trimReversed form address with
  | case1 address ends ih =>
    obtain ⟨gone, split, idle⟩ := ih
    obtain ⟨rest, rfl⟩ := List.isPrefixOf_iff_prefix.mp ends.2
    refine ⟨"&amp;".toList.reverse ++ gone, ?_, ?_⟩
    · have dropped : ("&amp;".toList.reverse ++ rest).drop 5 = rest := rfl
      rw [dropped] at split
      rw [List.append_assoc, dropped, ← split]
    · rw [List.reverse_append, List.reverse_reverse]
      exact idle.append (.reference ends.1 .nil)
  | case2 address _ _ ih =>
    obtain ⟨gone, split, idle⟩ := ih
    obtain ⟨gone', split', drops⟩ := exists_of_trimOnce address
    refine ⟨gone' ++ gone, ?_, ?_⟩
    · rw [List.append_assoc, ← split, ← split']
    · rw [List.reverse_append]
      exact idle.append (idle_of_forall fun c member => drops c (List.mem_reverse.mp member))
  | case3 address => exact ⟨[], rfl, .nil⟩

/-- What trimming drops from the end of an address is idle. -/
theorem exists_idle_of_trim (form : TextForm) (address : List Char) :
    ∃ gone, address = trim form address ++ gone ∧ Idle form gone := by
  obtain ⟨gone, split, idle⟩ := exists_of_trimReversed form address.reverse
  refine ⟨gone.reverse, ?_, idle⟩
  rw [trim, ← List.reverse_append, ← split, List.reverse_reverse]

/-- Trimming stops at the latest at a character that is not dropped. -/
theorem length_lt_trim {front more : List Char} (stays : isDroppable c = false) (plain : '&' ∉ front ++ [c]) :
    front.length < (trim form (front ++ c :: more)).length := by
  obtain ⟨gone, split, idle⟩ := exists_idle_of_trim form (front ++ c :: more)
  generalize trim form (front ++ c :: more) = kept at split
  by_contra short
  obtain ⟨before, rfl⟩ : ∃ before, front = kept ++ before :=
    List.prefix_of_prefix_length_le ⟨gone, split.symm⟩ (List.prefix_append ..) (Nat.le_of_not_lt short)
      |>.imp fun _ => Eq.symm
  rw [List.append_assoc, List.append_cancel_left_eq] at split
  subst split
  refine Idle.not_append_cons stays ?_ idle
  intro inside
  exact plain (by rw [List.append_assoc]; exact List.mem_append_right _ inside)

/-- The number of characters of the scheme and the host of an address at the start of a text;
`before` is the text before it, nearest character first. -/
def siteLength? (bare : Bool) (before text : List Char) : Option Nat :=
  if blockedBy before then none
  else (schemeLength? bare text).bind fun scheme =>
    let site := host (text.drop scheme)
    if site.isEmpty || (scheme = 0 && !looksLikeDomain site) then none else some (scheme + site.length)

/-- A text up to where an address with a site of the given length reaches. -/
def reach (form : TextForm) (length : Nat) (text : List Char) : List Char :=
  text.take length ++ run form (text.drop length)

theorem reach_isStart (form : TextForm) (length : Nat) (text : List Char) : reach form length text <+: text := by
  conv => rhs; rw [← List.take_append_drop length text]
  exact (List.prefix_append_right_inj _).mpr (run_isStart form _)

/-- No character that fits a host is dropped, but for the full stop. -/
theorem isDroppable_of_fitsHost (fits : fitsHost c = true) (other : c ≠ '.') : isDroppable c = false := by
  rw [Bool.eq_false_iff]
  intro drops
  have listed : c ∈ ",;:!?*)]\x7d".toList := by
    simpa [isDroppable, isTrailing, brackets, or_assoc, other] using drops
  have marks : ∀ d ∈ ",;:!?*)]\x7d".toList, fitsHost d = false := by decide
  exact Bool.false_ne_true ((marks c listed).symm.trans fits)

/-- The last character of a host is not dropped. -/
theorem exists_of_host (nonempty : host text ≠ []) :
    ∃ front c, host text = front ++ [c] ∧ isDroppable c = false := by
  obtain ⟨front, c, shape⟩ := List.eq_nil_or_concat (host text) |>.resolve_left nonempty
  rw [List.concat_eq_append] at shape
  have fits : fitsHost c = true := by
    have member : c ∈ text.takeWhile fitsHost := by
      apply (dropEndWhile_isStart (fun c => c = '.' || c = '-') _).subset
      rw [← host, shape]
      simp
    exact List.all_eq_true.mp List.all_takeWhile c member
  refine ⟨front, c, shape, isDroppable_of_fitsHost fits ?_⟩
  rintro rfl
  have kept := List.rdropWhile_last_not (fun c => c = '.' || c = '-') (text.takeWhile fitsHost) nonempty
  have last : (host text).getLast? = some '.' := by simp [shape]
  rw [List.getLast?_eq_some_getLast nonempty] at last
  exact kept (by simpa using .inl (Option.some.inj last))

/-- A site holds nothing escaped and ends in a character that is not dropped. -/
theorem exists_of_siteLength? (found : siteLength? bare before text = some length) :
    ∃ front c rest, text = (front ++ [c]) ++ rest ∧ length = (front ++ [c]).length ∧ IsUnescaped (front ++ [c]) ∧
      isDroppable c = false := by
  unfold siteLength? at found
  split at found
  · exact absurd found (by simp)
  · obtain ⟨scheme, schemed, found⟩ := Option.bind_eq_some_iff.mp found
    obtain ⟨lead, rest, rfl, plain, rfl⟩ := exists_of_schemeLength? schemed
    simp only [List.drop_left, Option.ite_none_left_eq_some, Option.some.injEq] at found
    obtain ⟨filled, rfl⟩ := found
    have nonempty : host rest ≠ [] := by
      intro empty
      exact filled (by simp [empty])
    obtain ⟨front, c, shape, stays⟩ := exists_of_host nonempty
    obtain ⟨more, whole⟩ := host_isStart rest
    refine ⟨lead ++ front, c, more, ?_, ?_, ?_, stays⟩
    · rw [← whole, shape]
      simp
    · rw [shape]
      simp
    · rw [List.append_assoc, ← shape]
      exact plain.append (isUnescaped_host rest)

/-- An address starts with a character that is not escaped. -/
theorem escapeChar_of_siteLength? (found : siteLength? bare before (c :: rest) = some length) :
    escapeChar c = [c] := by
  obtain ⟨front, d, more, whole, _, plain, _⟩ := exists_of_siteLength? found
  apply plain
  cases front with
  | nil =>
    obtain ⟨rfl, _⟩ := List.cons.inj whole
    exact List.mem_singleton_self _
  | cons e others =>
    obtain ⟨rfl, _⟩ := List.cons.inj whole
    exact List.mem_cons_self

/-- Trimming never drops a part of the site. -/
theorem length_le_trim_reach (form : TextForm) (found : siteLength? bare before text = some length) :
    length ≤ (trim form (reach form length text)).length := by
  obtain ⟨front, c, rest, rfl, rfl, plain, stays⟩ := exists_of_siteLength? found
  have unescaped : '&' ∉ front ++ [c] := by
    intro inside
    exact absurd (plain '&' inside) (by decide)
  rw [reach, List.take_left, List.append_assoc, List.length_append]
  exact length_lt_trim stays unescaped

/-- An address is its reach trimmed. -/
theorem read?_eq_map_trim (form : TextForm) (bare : Bool) (before text : List Char) :
    read? form bare before text =
      (siteLength? bare before text).map fun length => trim form (reach form length text) := by
  cases site : siteLength? bare before text with
  | some length =>
    have longer := length_le_trim_reach form site
    unfold siteLength? at site
    split at site
    · exact absurd site (by simp)
    · rename_i free
      obtain ⟨scheme, schemed, site⟩ := Option.bind_eq_some_iff.mp site
      simp only [Option.ite_none_left_eq_some, Option.some.injEq] at site
      obtain ⟨filled, rfl⟩ := site
      have nonempty : 0 < (host (text.drop scheme)).length := by
        rw [List.length_pos_iff]
        intro empty
        exact filled (by simp [empty])
      rw [read?, if_neg free, schemed, Option.bind_some, if_neg filled]
      exact if_neg (by rw [reach] at longer; omega)
  | none =>
    unfold siteLength? at site
    unfold read?
    split
    · rfl
    · rename_i free
      rw [if_neg free] at site
      cases schemed : schemeLength? bare text with
      | none => rfl
      | some scheme =>
        simp only [schemed, Option.bind_some, ite_eq_left_iff, reduceCtorEq, imp_false, not_not] at site
        exact if_pos site

end Address

namespace Entity

/-- After an address a scan goes on from the end of its reach. -/
theorem scan_address (form : TextForm) (position : Nat) (unsigned : c ∉ "#＃@＠".toList)
    (found : Address.siteLength? bare before (c :: rest) = some length) :
    ∃ address stop, scan form bare position before (c :: rest) =
      ⟨.url address, position, stop⟩ ::
        scan form bare (position + (Address.reach form length (c :: rest)).length)
          ((Address.reach form length (c :: rest)).reverse ++ before)
          ((c :: rest).drop (Address.reach form length (c :: rest)).length) := by
  have other : c ≠ '<' := by
    rintro rfl
    exact absurd (Address.escapeChar_of_siteLength? found) (by decide)
  have signs : ¬(c = '#' ∨ c = '＃') ∧ ¬(c = '@' ∨ c = '＠') := by simpa [and_assoc] using unsigned
  have positive : 0 < length := by
    obtain ⟨_, _, _, _, rfl, _⟩ := Address.exists_of_siteLength? found
    simp
  have site := Address.length_le_trim_reach form found
  obtain ⟨after, start⟩ := Address.reach_isStart form length (c :: rest)
  obtain ⟨gone, split, idle⟩ := Address.exists_idle_of_trim form (Address.reach form length (c :: rest))
  have read : EntityKind.read? form bare before (c :: rest) =
      some (.url (if form = .html then unescape (Address.trim form (Address.reach form length (c :: rest)))
        else Address.trim form (Address.reach form length (c :: rest))),
          (Address.trim form (Address.reach form length (c :: rest))).length) := by
    rw [EntityKind.read?, if_neg signs.1, if_neg signs.2, Address.read?_eq_map_trim, found]
    rfl
  generalize Address.reach form length (c :: rest) = whole at *
  generalize Address.trim form whole = address at *
  refine ⟨_, _, (scan_read position other (by omega) read).trans (congrArg _ ?_)⟩
  subst split
  rw [← start, List.append_assoc, List.take_left, List.drop_left, scan_idle idle, ← List.append_assoc address,
    List.drop_left, List.length_append, List.reverse_append, List.append_assoc, Nat.add_assoc]

end Entity

end PostMarkup
