import PostMarkup.Proofs.Entity.Reach
import PostMarkup.Proofs.Entity.Rendered

/-! # Where an address ends

Trimming goes on until nothing is left to trim. So an address in a text ends in no punctuation, in no closing
bracket without a partner and, in markup, in no reference of an ampersand. All that is missing from its reach is of
these three kinds, and its host is never cut.
-/

namespace PostMarkup

open PostMarkup.Text

namespace Address

variable {form : TextForm} {bare : Bool} {before text address : List Char} {pair : Char × Char}

/-- Whether an address ends in nothing that belongs to the sentence around it. -/
structure IsTrimmed (form : TextForm) (address : List Char) : Prop where
  /-- No punctuation comes last. -/
  mark : ∀ c ∈ address.getLast?, c ∉ ".,;:!?*".toList
  /-- A closing bracket comes last only if each of its kind has a partner. -/
  bracket : ∀ pair ∈ brackets, pair.2 ∈ address.getLast? → address.count pair.2 ≤ address.count pair.1
  /-- In markup, the reference of an ampersand does not come last. -/
  reference : form = .html → ¬"&amp;".toList <:+ address

/-- Whether a text consists of all characters before `after` that continue an address. -/
structure IsRun (form : TextForm) (text after : List Char) : Prop where
  inside : ∀ front back, text = front ++ back → back ≠ [] → continues form (back ++ after) = true
  stop : continues form after = false

theorem exists_isRun (form : TextForm) (text : List Char) :
    ∃ after, text = run form text ++ after ∧ IsRun form (run form text) after := by
  induction text with
  | nil => exact ⟨[], rfl, by simp [run], rfl⟩
  | cons c rest ih =>
    by_cases goesOn : continues form (c :: rest) = true
    · obtain ⟨after, whole, inside, stop⟩ := ih
      have longer : run form (c :: rest) = c :: run form rest := if_pos goesOn
      rw [longer]
      refine ⟨after, congrArg _ whole, ?_, stop⟩
      intro front back split filled
      cases front with
      | nil =>
        rw [← show c :: run form rest = back from split, List.cons_append, ← whole]
        exact goesOn
      | cons d others => exact inside others back (List.cons.inj split).2 filled
    · have none : run form (c :: rest) = [] := if_neg goesOn
      rw [none]
      refine ⟨c :: rest, rfl, ?_, by simpa using goesOn⟩
      intro front back split filled
      exact absurd (List.append_eq_nil_iff.mp split.symm).2 filled

theorem trimBracket_isSuffix (address : List Char) (pair : Char × Char) : trimBracket address pair <:+ address :=
  dropUnpaired_isSuffix ..

theorem trimBrackets_isSuffix (pairs : List (Char × Char)) (address : List Char) :
    pairs.foldl trimBracket address <:+ address := by
  induction pairs generalizing address with
  | nil => exact List.suffix_refl _
  | cons pair others ih => exact (ih _).trans (trimBracket_isSuffix address pair)

/-- Brackets of each kind are left alone if they are left alone by all steps together, since no step adds to an
address. -/
theorem trimBracket_of_trimBrackets {pairs : List (Char × Char)} (kept : pairs.foldl trimBracket address = address)
    (listed : pair ∈ pairs) : trimBracket address pair = address := by
  induction pairs with
  | nil => exact absurd listed (by simp)
  | cons first others ih =>
    rw [List.foldl_cons] at kept
    have later := trimBrackets_isSuffix others (trimBracket address first)
    rw [kept] at later
    have same : trimBracket address first = address :=
      (trimBracket_isSuffix address first).sublist.antisymm later.sublist
    rw [same] at kept
    rcases List.mem_cons.mp listed with rfl | listed
    · exact same
    · exact ih kept listed

/-- A closing bracket that stays at the end has a partner. -/
theorem count_le_of_trimBracket (kept : trimBracket address pair = address) (closing : pair.2 ∈ address.head?) :
    address.count pair.2 ≤ address.count pair.1 := by
  obtain ⟨rest, rfl⟩ := List.head?_eq_some_iff.mp closing
  by_contra more
  rw [trimBracket, dropUnpaired, if_pos ⟨rfl, Nat.lt_of_not_le more⟩] at kept
  have shorter := (dropUnpaired_isSuffix pair.2 ((pair.2 :: rest).count pair.1)
    ((pair.2 :: rest).count pair.2 - 1) rest).length_le
  rw [kept] at shorter
  exact Nat.not_succ_le_self _ shorter

/-- An address that one round of trimming leaves alone ends in no punctuation and no unpaired bracket. -/
theorem ends_of_trimOnce (kept : trimOnce address = address) :
    (∀ c ∈ address.head?, isTrailing c = false) ∧
      ∀ pair ∈ brackets, pair.2 ∈ address.head? → address.count pair.2 ≤ address.count pair.1 := by
  have unmarked : address.dropWhile isTrailing = address := by
    have later := trimBrackets_isSuffix brackets (address.dropWhile isTrailing)
    rw [← trimOnce, kept] at later
    exact (List.dropWhile_suffix _).sublist.antisymm later.sublist
  rw [trimOnce, unmarked] at kept
  constructor
  · intro c last
    have stops := List.head?_dropWhile_not isTrailing address
    rw [unmarked, Option.mem_def.mp last] at stops
    simpa using stops
  · exact fun pair listed => count_le_of_trimBracket (trimBracket_of_trimBrackets kept listed)

/-- Trimming stops only where a further round would drop nothing. -/
theorem trimReversed_isFixed (form : TextForm) (address : List Char) :
    ¬(form = .html ∧ endsInAmpersand (trimReversed form address) = true) ∧
      trimOnce (trimReversed form address) = trimReversed form address := by
  fun_induction trimReversed form address with
  | case1 address _ ih => exact ih
  | case2 address _ _ ih => exact ih
  | case3 address notEnd notShorter =>
    exact ⟨notEnd, (trimOnce_isSuffix address).eq_of_length_le (Nat.le_of_not_lt notShorter)⟩

theorem trim_isTrimmed (form : TextForm) (address : List Char) : IsTrimmed form (trim form address) := by
  obtain ⟨notEnd, once⟩ := trimReversed_isFixed form address.reverse
  obtain ⟨marks, closings⟩ := ends_of_trimOnce once
  unfold trim
  constructor
  · intro c last
    rw [List.getLast?_reverse] at last
    have other := marks c last
    simpa [isTrailing, and_assoc] using other
  · intro pair listed last
    rw [List.getLast?_reverse] at last
    rw [List.count_reverse, List.count_reverse]
    exact closings pair listed last
  · intro html ends
    refine notEnd ⟨html, List.isPrefixOf_iff_prefix.mpr ?_⟩
    rwa [← List.reverse_suffix, List.reverse_reverse]

/-- Whether an address at the start of a text covers a scheme and the whole host after it, where `tail` is all that
continues the host and `gone` is what trimming took from the end. -/
structure IsReached (form : TextForm) (bare : Bool) (text address scheme site tail after gone : List Char) : Prop where
  whole : text = scheme ++ (site ++ (tail ++ after))
  isScheme : schemeLength? bare text = some scheme.length
  isHost : host (site ++ (tail ++ after)) = site
  filled : site ≠ []
  isRun : IsRun form tail after
  covered : scheme ++ site <+: address
  trimmed : IsTrimmed form address
  missing : scheme ++ (site ++ tail) = address ++ gone
  idle : Idle form gone

/-- An address covers its site and reaches over all that continues it, but for what is trimmed. -/
theorem exists_isReached (found : read? form bare before text = some address) :
    ∃ scheme site tail after gone, IsReached form bare text address scheme site tail after gone := by
  rw [read?_eq_map_trim] at found
  obtain ⟨length, sited, rfl⟩ := Option.map_eq_some_iff.mp found
  have longer := length_le_trim_reach form sited
  unfold siteLength? at sited
  split at sited
  · exact absurd sited (by simp)
  · obtain ⟨size, schemed, sited⟩ := Option.bind_eq_some_iff.mp sited
    obtain ⟨scheme, rest, rfl, _, rfl⟩ := exists_of_schemeLength? schemed
    simp only [List.drop_left, Option.ite_none_left_eq_some, Option.some.injEq] at sited
    obtain ⟨filled, rfl⟩ := sited
    obtain ⟨further, shape⟩ := host_isStart rest
    obtain ⟨after, goesOn, isRun⟩ := exists_isRun form further
    have site : host rest ++ (run form further ++ after) = rest := by rw [← goesOn, shape]
    have reached : reach form (scheme.length + (host rest).length) (scheme ++ rest) =
        scheme ++ (host rest ++ run form further) := by
      have cut : scheme ++ rest = (scheme ++ host rest) ++ further := by rw [List.append_assoc, shape]
      rw [reach, ← List.length_append, cut, List.take_left, List.drop_left, List.append_assoc]
    obtain ⟨gone, split, idle⟩ := exists_idle_of_trim form (scheme ++ (host rest ++ run form further))
    rw [reached] at longer ⊢
    have start : scheme ++ host rest <+: scheme ++ (host rest ++ run form further) :=
      (List.prefix_append_right_inj _).mpr (List.prefix_append ..)
    exact ⟨scheme, host rest, run form further, after, gone, {
      whole := by rw [site]
      isScheme := schemed
      isHost := by rw [site]
      filled := fun empty => filled (by simp [empty])
      isRun := isRun
      covered := List.prefix_of_prefix_length_le start (trim_isStart _) (by simpa using longer)
      trimmed := trim_isTrimmed form _
      missing := split
      idle := idle }⟩

end Address

/-- What stands in the entity of an address is the address with its references read. -/
theorem EntityKind.exists_address {form : TextForm} {bare : Bool} {before text payload : List Char} {length : Nat}
    (found : EntityKind.read? form bare before text = some (.url payload, length)) :
    ∃ address, Address.read? form bare before text = some address ∧ length = address.length ∧
      payload = if form = .html then unescape address else address := by
  cases text with
  | nil => exact absurd found (by simp [EntityKind.read?])
  | cons c rest =>
    simp only [EntityKind.read?] at found
    split at found
    · obtain ⟨_, _, same⟩ := Option.map_eq_some_iff.mp found
      cases same
    · split at found
      · obtain ⟨_, _, same⟩ := Option.map_eq_some_iff.mp found
        cases same
      · obtain ⟨address, read, same⟩ := Option.map_eq_some_iff.mp found
        cases same
        exact ⟨address, read, rfl, rfl⟩

/-- Every address that a scan finds covers its scheme and its whole host. It ends in nothing that belongs to the
sentence around it, and takes all that continues the host but for punctuation, closing brackets and, in markup,
references of an ampersand. -/
theorem Entity.isReached_of_mem_scan (form : TextForm) (bare : Bool) (position : Nat) (before text payload : List Char)
    (span : Span) (found : ⟨.url payload, span⟩ ∈ scan form bare position before text) :
    ∃ front rest address scheme site tail after gone, text = front ++ rest ∧
      span = ⟨position + front.length, position + front.length + address.length⟩ ∧
      payload = (if form = .html then unescape address else address) ∧
      Address.IsReached form bare rest address scheme site tail after gone := by
  obtain ⟨front, rest, length, whole, read, stands⟩ := exists_read?_of_mem_scan found
  obtain ⟨address, taken, rfl, same⟩ := EntityKind.exists_address read
  obtain ⟨scheme, site, tail, after, gone, reached⟩ := Address.exists_isReached taken
  exact ⟨front, rest, address, scheme, site, tail, after, gone, whole, stands, same, reached⟩

/-- An address loses a comma, a bracket without a partner and an ampersand, and keeps a bracket with one. -/
theorem Entity.isReached_of_mem_scan_brackets :
    let text := "https://a.b/(c)&amp;), d".toList
    let address := "https://a.b/(c)".toList
    ⟨.url address, 1, 16⟩ ∈ scan .html false 0 [] ('(' :: text) ∧
      ∃ front rest address scheme site tail after gone, '(' :: text = front ++ rest ∧
        (⟨1, 16⟩ : Span) = ⟨0 + front.length, 0 + front.length + address.length⟩ ∧
        "https://a.b/(c)".toList = (if TextForm.html = .html then unescape address else address) ∧
        Address.IsReached .html false rest address scheme site tail after gone := by
  intro text address
  have trimmed : Address.trim .html "https://a.b/(c)&amp;),".toList = address := by
    have first : Address.trimOnce "https://a.b/(c)&amp;),".toList.reverse = "https://a.b/(c)&amp;".toList.reverse := rfl
    have second : "https://a.b/(c)&amp;".toList.reverse.drop 5 = address.reverse := rfl
    have last : Address.trimOnce address.reverse = address.reverse := rfl
    rw [Address.trim, Address.trimReversed, if_neg (by decide), first, if_pos (by decide), Address.trimReversed,
      if_pos (by decide), second, Address.trimReversed, if_neg (by decide), last, if_neg (Nat.lt_irrefl _),
      List.reverse_reverse]
  have read : EntityKind.read? .html false ['('] ('h' :: text.tail) = some (.url address, 15) := by
    have reached : Address.read? .html false ['('] ('h' :: text.tail) =
        if (Address.trim .html "https://a.b/(c)&amp;),".toList).length ≤ 8 then none
        else some (Address.trim .html "https://a.b/(c)&amp;),".toList) := rfl
    rw [trimmed, if_neg (by decide)] at reached
    have payload : unescape address = address := unescape_escapeText address
    rw [EntityKind.read?, if_neg (by decide), if_neg (by decide), reached, Option.map_some, if_pos rfl, payload]
    rfl
  have found : ⟨.url address, 1, 16⟩ ∈ scan .html false 0 [] ('(' :: text) := by
    have scanned := scan_read 1 (by decide) (by decide) read
    rw [scan_skip (by decide) (EntityKind.read?_of_mark (by decide) (by decide))]
    exact scanned ▸ List.mem_cons_self
  exact ⟨found, isReached_of_mem_scan .html false 0 [] _ address ⟨1, 16⟩ found⟩

end PostMarkup
