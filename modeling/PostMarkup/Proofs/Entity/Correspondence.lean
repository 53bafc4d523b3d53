import Mathlib.Data.List.Forall2
import PostMarkup.Proofs.Entity.NarrowSign
import PostMarkup.Proofs.Entity.Reach

/-! # The entities of a text and of its escaped form

A scan of plain text and a scan of the escaped text run side by side. Each step starts at one place
of the text in both. A hashtag or mention is read alike, and an address reaches alike: its trimmed
ends may differ, but both scans go on from where it reaches.
-/

namespace PostMarkup

open PostMarkup.Text PostMarkup.Unicode

variable {bare : Bool} {read rest text : List Char} {c : Char}

/-- A test of the nearest character before a sign that ampersands, angle brackets and semicolons do not
pass gives one answer for a text and its escaped form. -/
theorem any_head_reverse_escapeText {blocks : Char → Bool} (free : ∀ c ∈ "&<>;".toList, blocks c = false)
    (text : List Char) : (escapeText text).reverse.head?.any blocks = text.reverse.head?.any blocks := by
  have marks : blocks '&' = false ∧ blocks '<' = false ∧ blocks '>' = false ∧ blocks ';' = false := by
    simpa using free
  obtain ⟨ampersand, less, greater, semicolon⟩ := marks
  induction text using List.reverseRecOn with
  | nil => rfl
  | append_singleton front c _ =>
    rw [escapeText_append, List.reverse_append, List.reverse_append, escapeText_cons, escapeText_nil, List.append_nil]
    rcases escapeChar_eq c with own | ⟨rfl, written⟩ | ⟨rfl, written⟩ | ⟨rfl, written⟩
    · rw [own]
      rfl
    · rw [written]
      exact semicolon.trans ampersand.symm
    · rw [written]
      exact semicolon.trans less.symm
    · rw [written]
      exact semicolon.trans greater.symm

theorem Address.blockedBy_escapeText (text : List Char) :
    blockedBy (escapeText text).reverse = blockedBy text.reverse :=
  any_head_reverse_escapeText (by decide) text

theorem Mention.blockedBy_escapeText (text : List Char) :
    blockedBy (escapeText text).reverse = blockedBy text.reverse :=
  any_head_reverse_escapeText (by decide) text

/-- An ampersand blocks a hashtag in plain text, and its reference does in escaped text. -/
theorem Hashtag.blockedBy_escapeText (text : List Char) :
    blockedBy .html (escapeText text).reverse = blockedBy .plain text.reverse := by
  induction text using List.reverseRecOn with
  | nil => rfl
  | append_singleton front c _ =>
    rcases escapeChar_eq c with own | ⟨rfl, written⟩ | ⟨rfl, written⟩ | ⟨rfl, written⟩
    · have open' := Address.not_endsInAmpersand own front
      have last := Address.reversed_concat_of_own own front
      rw [Address.reversed] at open' last
      rw [blockedBy, open', last, blockedBy, List.reverse_append]
      rfl
    all_goals
      rw [escapeText_append, List.reverse_append, List.reverse_append, escapeText_cons, written]
      rfl

theorem Hashtag.read?_escapeText (read rest : List Char) :
    Hashtag.read? .html (escapeText read).reverse (escapeText rest) = Hashtag.read? .plain read.reverse rest := by
  rw [Hashtag.read?, takeWhile_escapeText (by decide), blockedBy_escapeText]
  rfl

theorem Mention.domain_escapeText (text : List Char) : domain (escapeText text) = domain text := by
  rw [domain, takeWhile_escapeText (by decide)]
  rfl

theorem Mention.read?_escapeText (read rest : List Char) :
    Mention.read? (escapeText read).reverse (escapeText rest) = Mention.read? read.reverse rest := by
  have user : (escapeText rest).takeWhile (fun c => c.isAlphanum || c = '_') =
      rest.takeWhile fun c => c.isAlphanum || c = '_' := takeWhile_escapeText (by decide) rest
  have plain : IsUnescaped (rest.takeWhile fun c => c.isAlphanum || c = '_') :=
    isUnescaped_takeWhile (by decide) rest
  obtain ⟨after, shape⟩ := List.takeWhile_prefix (l := rest) fun c : Char => c.isAlphanum || c = '_'
  rw [Mention.read?, Mention.read?, blockedBy_escapeText]
  simp only [user]
  generalize rest.takeWhile (fun c : Char => c.isAlphanum || c = '_') = name at shape plain
  subst shape
  rw [drop_escapeText plain, List.drop_left]
  split
  · rfl
  · cases after with
    | nil => rfl
    | cons d more =>
      rw [escapeText_cons]
      rcases escapeChar_eq d with own | ⟨rfl, written⟩ | ⟨rfl, written⟩ | ⟨rfl, written⟩
      · rw [own, List.singleton_append]
        by_cases at' : d = '@'
        · subst at'
          simp only [domain_escapeText]
        · simp [at']
      all_goals
        rw [written]
        rfl

theorem Address.siteLength?_escapeText (bare : Bool) (read rest : List Char) :
    siteLength? bare (escapeText read).reverse (escapeText rest) = siteLength? bare read.reverse rest := by
  rw [siteLength?, siteLength?, blockedBy_escapeText, schemeLength?_escapeText]
  split
  · rfl
  · cases schemed : schemeLength? bare rest with
    | none => rfl
    | some scheme =>
      obtain ⟨lead, after, rfl, plain, rfl⟩ := exists_of_schemeLength? schemed
      simp only [Option.bind_some, drop_escapeText plain, List.drop_left, host_escapeText]

/-- An address reaches over the escaped form of what it reaches over in the text. -/
theorem Address.reach_escapeText {length : Nat} (found : siteLength? bare read.reverse rest = some length) :
    reach .html length (escapeText rest) = escapeText (reach .plain length rest) := by
  obtain ⟨front, c, after, rfl, rfl, plain, _⟩ := exists_of_siteLength? found
  rw [reach, reach, take_escapeText plain, drop_escapeText plain, List.take_left, List.drop_left, escapeText_append,
    escapeText_of_isUnescaped plain, run_escapeText]

namespace Entity

/-- An entity of a text as an entity of the escaped text. -/
def escaped (text : List Char) (entity : Entity) : Entity :=
  ⟨entity.kind, ⟨(escapeText (text.take entity.span.start)).length, (escapeText (text.take entity.span.stop)).length⟩⟩

def isAddress (entity : Entity) : Bool := entity.kind matches .url _

/-- Whether an entity of an escaped text corresponds to one of the text: a hashtag or mention is the same
there, and an address starts at the same place. -/
inductive Corresponds (text : List Char) : Entity → Entity → Prop
  | signed {entity : Entity} : entity.isSigned = true → Corresponds text entity (entity.escaped text)
  | address {address address' : List Char} {start stop stop' : Nat} :
      Corresponds text ⟨.url address, start, stop⟩
        ⟨.url address', (escapeText (text.take start)).length, stop'⟩

variable {length : Nat} {kind : EntityKind} {form : TextForm} {before : List Char}

/-- A hashtag or mention takes its sign and a word that holds nothing escaped. -/
theorem exists_of_read?_sign (sign : c ∈ "#＃@＠".toList)
    (found : EntityKind.read? form bare before (c :: rest) = some (kind, length)) :
    ∃ word after, rest = word ++ after ∧ IsUnescaped (c :: word) ∧ length = (c :: word).length ∧
      ∀ span, isSigned ⟨kind, span⟩ = true := by
  have own : ∀ d ∈ "#＃@＠".toList, escapeChar d = [d] := by decide
  have signs : (c = '#' ∨ c = '＃') ∨ c = '@' ∨ c = '＠' := by simpa [or_assoc] using sign
  rw [EntityKind.read?] at found
  split at found
  · obtain ⟨tag, read, same⟩ := Option.map_eq_some_iff.mp found
    cases same
    obtain ⟨⟨after, whole⟩, plain, _⟩ := Hashtag.isStart_of_read? read
    exact ⟨tag, after, whole.symm, List.forall_mem_cons.mpr ⟨own c sign, plain⟩, rfl, fun _ => rfl⟩
  · rename_i other
    rw [if_pos (signs.resolve_left other)] at found
    obtain ⟨account, read, same⟩ := Option.map_eq_some_iff.mp found
    cases same
    obtain ⟨⟨after, whole⟩, plain, _⟩ := Mention.isStart_of_read? read
    exact ⟨account, after, whole.symm, List.forall_mem_cons.mpr ⟨own c sign, plain⟩, rfl, fun _ => rfl⟩

/-- At a sign the same is read in a text and in its escaped form. -/
theorem read?_sign_escapeText (bare : Bool) (read rest : List Char) (sign : c ∈ "#＃@＠".toList) :
    EntityKind.read? .html bare (escapeText read).reverse (c :: escapeText rest) =
      EntityKind.read? .plain bare read.reverse (c :: rest) := by
  have signs : (c = '#' ∨ c = '＃') ∨ c = '@' ∨ c = '＠' := by simpa [or_assoc] using sign
  rw [EntityKind.read?, EntityKind.read?, Hashtag.read?_escapeText, Mention.read?_escapeText]
  split
  · rfl
  · rename_i other
    rw [if_pos (signs.resolve_left other), if_pos (signs.resolve_left other)]

theorem scan_plain_skip {position : Nat} (none : EntityKind.read? .plain bare before (c :: rest) = none) :
    scan .plain bare position before (c :: rest) = scan .plain bare (position + 1) (c :: before) rest := by
  rw [scan, if_neg (by simp), none]

/-- No entity of plain text starts with a character that is escaped. -/
theorem read?_of_escaped (escaped : escapeChar c ≠ [c]) : EntityKind.read? form bare before (c :: rest) = none := by
  have marks : c ∉ "#＃@＠".toList ∧ c.isAlphanum = false := by
    rcases escapeChar_eq c with own | ⟨rfl, _⟩ | ⟨rfl, _⟩ | ⟨rfl, _⟩
    · exact absurd own escaped
    all_goals decide
  exact EntityKind.read?_of_mark marks.1 marks.2

/-- An entity that covers a slice of a text covers the escaped form of the slice. -/
theorem escaped_slice (kind : EntityKind) (read slice after : List Char) :
    escaped (read ++ (slice ++ after)) ⟨kind, read.length, read.length + slice.length⟩ =
      ⟨kind, (escapeText read).length, (escapeText read).length + (escapeText slice).length⟩ := by
  rw [escaped]
  simp only
  rw [List.take_left, ← List.append_assoc, ← List.length_append, List.take_left, escapeText_append, List.length_append]

/-- Whether the scans of a text and of its escaped form take a step over the same characters, and what they
find there corresponds. -/
def StepAlike (bare : Bool) (read rest : List Char) : Prop :=
  ∃ slice after found found', slice ≠ [] ∧ rest = slice ++ after ∧
    List.Forall₂ (Corresponds (read ++ rest)) found found' ∧
    scan .plain bare read.length read.reverse rest =
      found ++ scan .plain bare (read.length + slice.length) (slice.reverse ++ read.reverse) after ∧
    scan .html bare (escapeText read).length (escapeText read).reverse (escapeText rest) =
      found' ++ scan .html bare ((escapeText read).length + (escapeText slice).length)
        ((escapeText slice).reverse ++ (escapeText read).reverse) (escapeText after)

theorem stepAlike_escaped (bare : Bool) (read rest : List Char) (escaped : escapeChar c ≠ [c]) :
    StepAlike bare read (c :: rest) := by
  refine ⟨[c], rest, [], [], by simp, rfl, .nil, scan_plain_skip (read?_of_escaped escaped), ?_⟩
  rw [escapeText_cons, scan_escapeChar escaped, escapeText_cons, escapeText_nil, List.append_nil]
  rfl

/-- Where neither scan finds anything both step over a character. -/
theorem stepAlike_nothing (own : escapeChar c = [c])
    (plain : EntityKind.read? .plain bare read.reverse (c :: rest) = none)
    (html : EntityKind.read? .html bare (escapeText read).reverse (c :: escapeText rest) = none) :
    StepAlike bare read (c :: rest) := by
  have other : c ≠ '<' := by
    rintro rfl
    exact absurd own (by decide)
  refine ⟨[c], rest, [], [], by simp, rfl, .nil, scan_skip other plain, ?_⟩
  rw [escapeText_cons, escapeText_cons, escapeText_nil, own]
  exact scan_skip other html

/-- A hashtag or mention is stepped over as a whole. -/
theorem stepAlike_sign (bare : Bool) (read rest : List Char) (sign : c ∈ "#＃@＠".toList) :
    StepAlike bare read (c :: rest) := by
  have signs : ∀ d ∈ "#＃@＠".toList, escapeChar d = [d] ∧ d ≠ '<' := by decide
  obtain ⟨own, other⟩ := signs c sign
  have same := read?_sign_escapeText bare read rest sign
  cases found : EntityKind.read? .plain bare read.reverse (c :: rest) with
  | none => exact stepAlike_nothing own found (same.trans found)
  | some entity =>
    obtain ⟨kind, length⟩ := entity
    rw [found] at same
    obtain ⟨word, after, rfl, plain, rfl, signed⟩ := exists_of_read?_sign sign found
    have written : escapeText (c :: (word ++ after)) = (c :: word) ++ escapeText after := by
      rw [← List.cons_append, escapeText_append, escapeText_of_isUnescaped plain]
    have start : escapeText (c :: (word ++ after)) = c :: escapeText (word ++ after) := by
      rw [escapeText_cons, own, List.singleton_append]
    have alike : Corresponds (read ++ ((c :: word) ++ after)) _ _ :=
      .signed (signed ⟨read.length, read.length + (c :: word).length⟩)
    rw [escaped_slice, escapeText_of_isUnescaped plain] at alike
    have positive : 0 < (c :: word).length := Nat.succ_pos _
    refine ⟨c :: word, after, [_], [_], by simp, rfl, .cons alike .nil, ?_, ?_⟩
    · rw [scan_read _ other positive found, ← List.cons_append, List.take_left, List.drop_left]
      rfl
    · rw [start, scan_read _ other positive same, ← start, written, List.take_left, List.drop_left,
        escapeText_of_isUnescaped plain]
      rfl

/-- An address is stepped over up to where it reaches. -/
theorem stepAlike_other (bare : Bool) (read rest : List Char) (own : escapeChar c = [c])
    (unsigned : c ∉ "#＃@＠".toList) : StepAlike bare read (c :: rest) := by
  have signs : ¬(c = '#' ∨ c = '＃') ∧ ¬(c = '@' ∨ c = '＠') := by simpa [and_assoc] using unsigned
  have written : escapeText (c :: rest) = c :: escapeText rest := by
    rw [escapeText_cons, own, List.singleton_append]
  have site := Address.siteLength?_escapeText bare read (c :: rest)
  rw [written] at site
  cases found : Address.siteLength? bare read.reverse (c :: rest) with
  | none =>
    have without {form : TextForm} {before rest : List Char}
        (none : Address.siteLength? bare before (c :: rest) = none) :
        EntityKind.read? form bare before (c :: rest) = .none := by
      rw [EntityKind.read?, if_neg signs.1, if_neg signs.2, Address.read?_eq_map_trim, none]
      rfl
    exact stepAlike_nothing own (without found) (without (site.trans found))
  | some length =>
    obtain ⟨address, stop, plain⟩ := scan_address .plain read.length unsigned found
    obtain ⟨address', stop', html⟩ :=
      scan_address .html (escapeText read).length unsigned (site.trans found)
    have reach := Address.reach_escapeText found
    obtain ⟨after, start⟩ := Address.reach_isStart .plain length (c :: rest)
    have filled : Address.reach .plain length (c :: rest) ≠ [] := by
      obtain ⟨front, d, more, whole, rfl, _⟩ := Address.exists_of_siteLength? found
      rw [whole, Address.reach, List.take_left]
      simp
    rw [← written, reach] at html
    generalize Address.reach .plain length (c :: rest) = slice at *
    rw [← start, List.drop_left] at plain
    rw [← start, escapeText_append, List.drop_left] at html
    have alike : Corresponds (read ++ (c :: rest)) ⟨.url address, read.length, stop⟩
        ⟨.url address', (escapeText ((read ++ (c :: rest)).take read.length)).length, stop'⟩ := .address
    rw [List.take_left] at alike
    refine ⟨slice, after, [_], [_], filled, start.symm, .cons alike .nil, ?_, ?_⟩
    · rw [← start]
      exact plain
    · rw [← start, escapeText_append]
      exact html

/-- The entities of a text and of its escaped form correspond. -/
theorem forall₂_corresponds_scan (bare : Bool) (read rest : List Char) :
    List.Forall₂ (Corresponds (read ++ rest)) (scan .plain bare read.length read.reverse rest)
      (scan .html bare (escapeText read).length (escapeText read).reverse (escapeText rest)) := by
  induction size : rest.length using Nat.strong_induction_on generalizing read rest with
  | _ size ih =>
    subst size
    cases rest with
    | nil =>
      rw [escapeText_nil, scan, scan]
      exact .nil
    | cons c more =>
      have step : StepAlike bare read (c :: more) := by
        by_cases own : escapeChar c = [c]
        · by_cases sign : c ∈ "#＃@＠".toList
          · exact stepAlike_sign bare read more sign
          · exact stepAlike_other bare read more own sign
        · exact stepAlike_escaped bare read more own
      obtain ⟨slice, after, found, found', filled, whole, alike, plain, html⟩ := step
      have shorter : after.length < (c :: more).length := by
        have positive := List.length_pos_iff.mpr filled
        rw [whole, List.length_append]
        omega
      have further := ih after.length shorter (read ++ slice) after rfl
      rw [List.append_assoc, ← whole, escapeText_append, List.length_append, List.length_append, List.reverse_append,
        List.reverse_append] at further
      rw [plain, html]
      exact List.rel_append alike further

theorem filter_isSigned_of_forall₂ {entities entities' : List Entity}
    (alike : List.Forall₂ (Corresponds text) entities entities') :
    entities'.filter isSigned = (entities.filter isSigned).map (escaped text) := by
  induction alike with
  | nil => rfl
  | @cons entity _ _ _ first _ ih =>
    cases first with
    | signed signed =>
      have signed' : isSigned (escaped text entity) = true := signed
      rw [List.filter_cons_of_pos signed, List.filter_cons_of_pos signed', ih, List.map_cons]
    | address => exact ih

theorem starts_of_forall₂ {entities entities' : List Entity}
    (alike : List.Forall₂ (Corresponds text) entities entities') :
    (entities'.filter isAddress).map (·.span.start) =
      (entities.filter isAddress).map fun address => (escapeText (text.take address.span.start)).length := by
  induction alike with
  | nil => rfl
  | @cons entity _ _ _ first _ ih =>
    cases first with
    | signed signed =>
      have other : ¬isAddress entity = true := by
        obtain ⟨kind, span⟩ := entity
        cases kind <;> simp_all [isSigned, isAddress]
      have other' : ¬isAddress (escaped text entity) = true := other
      rw [List.filter_cons_of_neg other, List.filter_cons_of_neg other', ih]
    | address => exact congrArg _ ih

/-- The hashtags and mentions of an escaped text are those of the text, in the same order and with the same
words, from the escaped form of the text before them to the escaped form of the text up to their end. The
addresses of both start at the same places. -/
theorem extract_escapeText (bare : Bool) (text : List Char) :
    (extract .html bare (escapeText text)).filter isSigned =
        ((extract .plain bare text).filter isSigned).map (escaped text) ∧
      ((extract .html bare (escapeText text)).filter isAddress).map (·.span.start) =
        ((extract .plain bare text).filter isAddress).map fun address =>
          (escapeText (text.take address.span.start)).length := by
  have alike : List.Forall₂ (Corresponds text) (extract .plain bare text)
      (extract .html bare (escapeText text)) := by
    rw [extract_eq_scan, extract_eq_scan]
    exact forall₂_corresponds_scan bare [] text
  exact ⟨filter_isSigned_of_forall₂ alike, starts_of_forall₂ alike⟩

end Entity

end PostMarkup
