import PostMarkup.Proofs.Emoji

/-! # Shortcodes outside invisible regions

The reader of shortcodes counts how many elements are open inside an invisible region. It takes every
tag without a slash before its end for one that opens an element, also the tag of a void element. So an
invisible region ends at its own closing tag if the void elements inside it are written with a slash, and
then no known shortcode is left in text outside these regions. After `<br>` the region does not end.
-/

namespace PostMarkup.Emoji

variable {map : EmojiImages} {outer : List (List Char)} {before inner after parts rest body : List Piece}
  {first last : Tag} {soFar : List Char}

/-- Any properly nested markup without angle brackets inside its tags. -/
def compactModel : ContentModel where
  tag _ tag := tag.IsCompact
  char _ _ := True

/-- The pieces of a shortcode between its colons. -/
def codePieces (code : List Char) : List Piece := (':' :: code ++ [':']).map .char

/-- Whether pieces between others stand in an invisible region. -/
def Hidden (before inner after : List Piece) : Prop :=
  ∃ front first head tail last back, before = front ++ .tag first :: head ∧ after = tail ++ .tag last :: back ∧
    first.source = hiddenRegionTag ∧ last.closing = true ∧ last.name = first.name ∧
    Nested compactModel [] (head ++ (inner ++ tail))

/-- Whether no known shortcode is left in text outside invisible regions. -/
def NoneVisible (map : EmojiImages) (parts : List Piece) : Prop :=
  ∀ before code after, parts = before ++ (codePieces code ++ after) → ':' ∉ code → map.get? code ≠ none →
    Hidden before (codePieces code) after

/-- Whether the void elements in invisible regions are written with a slash. -/
def SlashedInside (parts : List Piece) : Prop :=
  ∀ before tag after, parts = before ++ .tag tag :: after → tag.IsVoid → Hidden before [.tag tag] after →
    tag.selfClosing = true

theorem Hidden.extend (hidden : Hidden before inner after) (front back : List Piece) :
    Hidden (front ++ before) inner (after ++ back) := by
  obtain ⟨front', first, head, tail, last, back', rfl, rfl, opens, closes, same, nested⟩ := hidden
  exact ⟨front ++ front', first, head, tail, last, back' ++ back, by simp, by simp, opens, closes, same, nested⟩

/-- A tag with the text of the tag that opens an invisible region opens an element. -/
theorem opens_of_hiddenRegionTag (written : first.IsWritten) (own : first.source = hiddenRegionTag) : first.Opens := by
  have read : Tag.read? hiddenRegionTag = some first := own ▸ written
  have known : Tag.read? hiddenRegionTag = some ⟨"span".toList, false, false, hiddenRegionTag⟩ := by decide
  obtain rfl := Option.some.inj (read.symm.trans known)
  exact ⟨rfl, rfl, by decide⟩

/-- Properly nested pieces are so whatever stands around them. -/
theorem nested_anywhere (nested : Nested compactModel outer parts) (outer' : List (List Char)) :
    Nested compactModel outer' parts :=
  nested.transport (fun _ _ => True) (fun _ _ _ _ => trivial) (fun _ _ _ _ _ _ => trivial)
    (fun _ _ _ _ compact => compact) trivial

/-- A tag inside an invisible region adds an element, ends one or leaves their number as it is. -/
theorem depthAfter_inside {tag : Tag} (written : tag.IsWritten) (depth : Nat) :
    depthAfter (depth + 1) tag.source.reverse =
      if tag.closing then depth else if tag.selfClosing then depth + 1 else depth + 2 := by
  obtain ⟨front, source, slash, closes⟩ := written.exists_shape
  have first : "</".toList.isPrefixOf tag.source.reverse.reverse = tag.closing := by
    rw [List.reverse_reverse, Bool.eq_iff_iff, List.isPrefixOf_iff_prefix, closes]
  have last : ">/".toList.isPrefixOf tag.source.reverse = tag.selfClosing := by
    rw [Bool.eq_iff_iff, slash, source]
    rw [List.reverse_append, ← List.head?_reverse]
    cases front.reverse with
    | nil => simp
    | cons c others =>
      have own : ">/".toList <+: '>' :: c :: others ↔ '/' = c := by simp
      rw [List.isPrefixOf_iff_prefix]
      simpa using own.trans eq_comm
  rw [depthAfter, if_neg (Nat.succ_ne_zero _), first, last]
  rfl

/-- Inside an invisible region an open colon makes no difference. -/
theorem replaceFrom_code_inside (depth : Nat) (soFar text : List Char) :
    replaceFrom map (depth + 1) (.code soFar) text =
      ':' :: soFar.reverse ++ replaceFrom map (depth + 1) .text text := by
  induction text generalizing soFar with
  | nil => simp [replaceFrom, Reading.pending]
  | cons c rest ih =>
    rw [replaceFrom, replaceFrom]
    by_cases colon : c = ':'
    · subst colon
      rfl
    · rw [if_neg colon, if_neg colon]
      split
      · rfl
      · simp [ih]

theorem replaceFrom_char_inside {c : Char} (differs : c ≠ '<') (depth : Nat) (text : List Char) :
    replaceFrom map (depth + 1) .text (c :: text) = c :: replaceFrom map (depth + 1) .text text := by
  rw [replaceFrom, if_neg differs]
  split
  · rename_i colon
    rw [replaceFrom_code_inside, colon]
    rfl
  · rfl

/-- Properly nested pieces inside an invisible region are copied, and as many elements are open after
them as before. -/
theorem replaceFrom_nested (nested : Nested compactModel outer parts)
    (slashed : ∀ tag, .tag tag ∈ parts → tag.IsVoid → tag.selfClosing = true) (depth : Nat) (text : List Char) :
    replaceFrom map (depth + 1) .text (sourceOf parts ++ text) =
      sourceOf parts ++ replaceFrom map (depth + 1) .text text := by
  induction nested generalizing depth text with
  | nil => rfl
  | @char _ c rest differs _ _ ih =>
    have later := ih (fun tag member => slashed tag (List.mem_cons_of_mem _ member)) depth text
    rw [sourceOf_cons, Piece.source, List.singleton_append, List.cons_append, replaceFrom_char_inside differs, later]
    rfl
  | @void _ tag rest written void compact _ ih =>
    have later := ih (fun tag member => slashed tag (List.mem_cons_of_mem _ member)) depth text
    have same : depthAfter (depth + 1) tag.source.reverse = depth + 1 := by
      rw [depthAfter_inside written, void.1, slashed tag List.mem_cons_self void]
      rfl
    rw [sourceOf_cons, Piece.source, List.append_assoc, (replaceFrom_tag map compact _ _).1, same, later,
      List.append_assoc]
  | @element _ first last body rest wFirst wLast opens closes _ cFirst cLast _ _ ihBody ihRest =>
    have inner := ihBody fun tag member => slashed tag (by simp [member])
    have later := ihRest (fun tag member => slashed tag (by simp [member])) depth text
    have more : depthAfter (depth + 1) first.source.reverse = depth + 2 := by
      rw [depthAfter_inside wFirst, opens.1, opens.2.1]
      rfl
    have fewer : depthAfter (depth + 2) last.source.reverse = depth + 1 := by
      rw [depthAfter_inside wLast, closes]
      rfl
    simp only [sourceOf_cons, sourceOf_append, Piece.source, List.append_assoc]
    rw [(replaceFrom_tag map cFirst _ _).1, more, inner, (replaceFrom_tag map cLast _ _).1, fewer, later]

/-- Where a list has a run without one of its items, the run stands before the item or after it. -/
theorem inside_or_after {α : Type} {front back before run after : List α} {item : α}
    (same : front ++ item :: back = before ++ (run ++ after)) (other : item ∉ run) (filled : run ≠ []) :
    (∃ tail, front = before ++ (run ++ tail) ∧ after = tail ++ item :: back) ∨
      ∃ head, before = front ++ item :: head ∧ back = head ++ (run ++ after) := by
  rcases List.append_eq_append_iff.mp same with ⟨more, rfl, split⟩ | ⟨more, rfl, split⟩
  · cases more with
    | nil =>
      obtain ⟨first, others, rfl⟩ := List.exists_cons_of_ne_nil filled
      obtain ⟨rfl, _⟩ := List.cons.inj split
      exact absurd List.mem_cons_self other
    | cons first head =>
      obtain ⟨rfl, rfl⟩ := List.cons.inj split
      exact .inr ⟨head, rfl, rfl⟩
  · rcases List.append_eq_append_iff.mp split with ⟨tail, rfl, rfl⟩ | ⟨middle, rfl, next⟩
    · exact .inl ⟨tail, rfl, rfl⟩
    · cases middle with
      | nil => exact .inl ⟨[], by simp, by simpa using next.symm⟩
      | cons first others =>
        obtain ⟨rfl, _⟩ := List.cons.inj next
        exact absurd (by simp) other

namespace NoneVisible

theorem nil : NoneVisible map [] := by
  intro before code after whole
  simp [codePieces] at whole

/-- A first piece that starts no known shortcode leaves nothing visible. -/
theorem cons {part : Piece} (later : NoneVisible map rest)
    (free : ∀ code after, part :: rest = codePieces code ++ after → ':' ∉ code → map.get? code = none) :
    NoneVisible map (part :: rest) := by
  intro before code after whole plain known
  cases before with
  | nil => exact absurd (free code after whole plain) known
  | cons own others =>
    obtain ⟨rfl, further⟩ := List.cons.inj whole
    simpa using (later others code after further plain known).extend [part] []

theorem tag (later : NoneVisible map rest) (tag : Tag) : NoneVisible map (.tag tag :: rest) :=
  later.cons fun code after whole => by simp [codePieces] at whole

theorem chars {text : List Char} (clean : ':' ∉ text) (later : NoneVisible map rest) :
    NoneVisible map (text.map .char ++ rest) := by
  induction text with
  | nil => exact later
  | cons c others ih =>
    simp only [List.mem_cons, not_or] at clean
    refine (ih clean.2).cons fun code after whole => ?_
    have colon : c = ':' := by simpa [codePieces] using (List.cons.inj whole).1
    exact absurd colon.symm clean.1

/-- A colon and the text after it leave nothing visible if the text goes on with nothing but a colon,
and only where it is no known shortcode. -/
theorem pending {text : List Char} (clean : ':' ∉ text) (later : NoneVisible map rest)
    (ends : ∀ c others, rest = .char c :: others → c = ':' ∧ map.get? text = none) :
    NoneVisible map ((':' :: text).map .char ++ rest) := by
  refine (chars clean later).cons fun code after whole plain => ?_
  have closed : ∀ text code : List Char, ':' ∉ text → ':' ∉ code →
      text.map Piece.char ++ rest = code.map .char ++ .char ':' :: after →
        code = text ∧ ∃ others, rest = .char ':' :: others := by
    intro text code clean plain same
    induction text generalizing code with
    | nil =>
      cases code with
      | nil => exact ⟨rfl, after, same⟩
      | cons d others =>
        obtain ⟨rfl, _⟩ := ends d _ same
        exact absurd List.mem_cons_self plain
    | cons c others ih =>
      simp only [List.mem_cons, not_or] at clean
      cases code with
      | nil => exact absurd (Piece.char.inj (List.cons.inj same).1).symm clean.1
      | cons d more =>
        simp only [List.mem_cons, not_or] at plain
        obtain ⟨head, further⟩ := List.cons.inj same
        obtain rfl := Piece.char.inj head
        obtain ⟨rfl, found⟩ := ih more clean.2 plain.2 further
        exact ⟨rfl, found⟩
  have same : text.map Piece.char ++ rest = code.map .char ++ .char ':' :: after := by
    simpa [codePieces] using whole
  obtain ⟨rfl, others, found⟩ := closed text code clean plain same
  exact (ends _ _ found).2

/-- What stands in an invisible region is not visible. -/
theorem hidden (opens : first.source = hiddenRegionTag) (closes : last.closing = true) (same : last.name = first.name)
    (nested : Nested compactModel [] body) (later : NoneVisible map rest) :
    NoneVisible map (.tag first :: (body ++ .tag last :: rest)) := by
  intro before code after whole plain known
  cases before with
  | nil => simp [codePieces] at whole
  | cons own others =>
    obtain ⟨rfl, further⟩ := List.cons.inj whole
    have other : .tag last ∉ codePieces code := by simp [codePieces]
    rcases inside_or_after further other (by simp [codePieces]) with ⟨tail, rfl, rfl⟩ | ⟨head, rfl, rfl⟩
    · exact ⟨[], first, others, tail, last, rest, rfl, rfl, opens, closes, same, nested⟩
    · have extended := (later head code after rfl plain known).extend (.tag first :: (body ++ [.tag last])) []
      rw [List.append_nil, List.cons_append, List.append_assoc] at extended
      exact extended

end NoneVisible

/-- What is written after an open colon starts with a colon or a tag. -/
theorem head_replaceFrom_code {text : List Char} {c : Char} {others : List Piece}
    (written : pieces (replaceFrom map 0 (.code soFar) text) = .char c :: others) : c = ':' := by
  have colon {more : List Char} (written : pieces (':' :: more) = .char c :: others) : c = ':' := by
    rw [pieces_of_ne (by decide)] at written
    exact (Piece.char.inj (List.cons.inj written).1).symm
  induction text generalizing soFar with
  | nil => exact colon written
  | cons d rest ih =>
    rw [replaceFrom] at written
    split at written
    · split at written
      · rename_i url _
        rw [pieces_image] at written
        cases written
      · exact colon written
    · split at written
      · exact colon written
      · exact ih written

/-- Whether what the reader writes for pieces outside invisible regions leaves no known shortcode
visible, in text or after an open colon. -/
structure Settles (map : EmojiImages) (parts : List Piece) : Prop where
  text : NoneVisible map (pieces (replaceFrom map 0 .text (sourceOf parts)))
  code : ∀ soFar, ':' ∉ soFar → '<' ∉ soFar →
    NoneVisible map (pieces (replaceFrom map 0 (.code soFar) (sourceOf parts)))

namespace Settles

/-- What is pending is written before a text that starts with a tag or a colon, or is empty. -/
theorem pending {text : List Char} (clean : ':' ∉ soFar) (clean' : '<' ∉ soFar)
    (later : NoneVisible map (pieces text))
    (ends : ∀ c others, pieces text = .char c :: others → c = ':' ∧ map.get? soFar.reverse = none) :
    NoneVisible map (pieces (':' :: soFar.reverse ++ text)) := by
  have less : '<' ∉ ':' :: soFar.reverse := by simpa using clean'
  rw [pieces_of_not_mem less]
  exact .pending (by simpa using clean) later ends

theorem nil : Settles map [] where
  text := by
    rw [sourceOf_nil, replaceFrom, Reading.pending, pieces_nil]
    exact .nil
  code soFar clean clean' := by
    have nothing : NoneVisible map (pieces []) := by
      rw [pieces_nil]
      exact .nil
    simpa [replaceFrom, Reading.pending] using pending clean clean' nothing (by simp)

theorem char {c : Char} (differs : c ≠ '<') (later : Settles map rest) : Settles map (.char c :: rest) := by
  constructor
  · rw [sourceOf_cons, Piece.source, List.singleton_append, replaceFrom, if_neg differs]
    split
    · exact later.code [] (by simp) (by simp)
    · rename_i other
      rw [pieces_of_ne differs]
      have plain : ':' ∉ [c] := by simpa using Ne.symm other
      exact .chars plain later.text
  · intro soFar clean clean'
    rw [sourceOf_cons, Piece.source, List.singleton_append, replaceFrom]
    split
    · split
      · rename_i url _
        rw [pieces_image]
        exact later.text.tag _
      · rename_i unknown
        refine pending clean clean' (later.code [] (by simp) (by simp)) fun d others written => ?_
        exact ⟨head_replaceFrom_code written, by simpa using unknown⟩
    · rename_i other
      apply later.code
      · exact List.not_mem_cons_of_ne_of_not_mem (Ne.symm other) clean
      · exact List.not_mem_cons_of_ne_of_not_mem (Ne.symm differs) clean'

/-- A tag that opens no invisible region is copied, and what is pending before it. -/
theorem tag {tag : Tag} (written : tag.IsWritten) (compact : tag.IsCompact) (visible : tag.source ≠ hiddenRegionTag)
    (later : Settles map rest) : Settles map (.tag tag :: rest) := by
  have shallow : depthAfter 0 tag.source.reverse = 0 := by simp [depthAfter, visible]
  obtain ⟨text, code⟩ := replaceFrom_tag map compact 0 (sourceOf rest)
  rw [shallow] at text code
  have copied : NoneVisible map (pieces (tag.source ++ replaceFrom map 0 .text (sourceOf rest))) := by
    rw [pieces_of_isWritten written]
    exact later.text.tag tag
  constructor
  · rwa [sourceOf_cons, Piece.source, text]
  · intro soFar clean clean'
    rw [sourceOf_cons, Piece.source, code]
    refine pending clean clean' copied fun c others same => ?_
    rw [pieces_of_isWritten written] at same
    cases same

/-- An invisible region whose void elements are written with a slash is copied, and the text after it is
read as before it. -/
theorem hidden (wFirst : first.IsWritten) (cFirst : first.IsCompact) (own : first.source = hiddenRegionTag)
    (wLast : last.IsWritten) (cLast : last.IsCompact) (closes : last.closing = true) (same : last.name = first.name)
    (nested : Nested compactModel outer body)
    (slashed : ∀ tag, .tag tag ∈ body → tag.IsVoid → tag.selfClosing = true) (later : Settles map rest) :
    Settles map (.tag first :: (body ++ .tag last :: rest)) := by
  have enters : depthAfter 0 first.source.reverse = 0 + 1 := by simp [depthAfter, own]
  have leaves : depthAfter (0 + 1) last.source.reverse = 0 := by
    rw [depthAfter_inside wLast, closes]
    rfl
  have source : sourceOf (.tag first :: (body ++ .tag last :: rest)) =
      first.source ++ (sourceOf body ++ (last.source ++ sourceOf rest)) := by
    simp [Piece.source]
  have inside : replaceFrom map (0 + 1) .text (sourceOf body ++ (last.source ++ sourceOf rest)) =
      sourceOf body ++ (last.source ++ replaceFrom map 0 .text (sourceOf rest)) := by
    rw [replaceFrom_nested nested slashed, (replaceFrom_tag map cLast _ _).1, leaves]
  obtain ⟨text, code⟩ := replaceFrom_tag map cFirst 0 (sourceOf body ++ (last.source ++ sourceOf rest))
  rw [enters, inside] at text code
  have cut : pieces (first.source ++ (sourceOf body ++ (last.source ++ replaceFrom map 0 .text (sourceOf rest)))) =
      .tag first :: (body ++ .tag last :: pieces (replaceFrom map 0 .text (sourceOf rest))) := by
    rw [pieces_of_isWritten wFirst, pieces_sourceOf_append nested.isWritten, pieces_of_isWritten wLast]
  have copied := NoneVisible.hidden own closes same (nested_anywhere nested []) later.text
  rw [← cut] at copied
  constructor
  · rwa [source, text]
  · intro soFar clean clean'
    rw [source, code]
    refine pending clean clean' copied fun c others same => ?_
    rw [cut] at same
    cases same

end Settles

namespace SlashedInside

theorem of_append {left right : List Piece} (slashed : SlashedInside (left ++ right)) :
    SlashedInside left ∧ SlashedInside right := by
  constructor
  · rintro before tag after rfl void hidden
    exact slashed before tag (after ++ right) (by simp) void (hidden.extend [] right)
  · rintro before tag after rfl void hidden
    refine slashed (left ++ before) tag after (by simp) void ?_
    simpa using hidden.extend left []

/-- In an invisible region every void element is written with a slash. -/
theorem inside (slashed : SlashedInside (.tag first :: (body ++ .tag last :: rest)))
    (own : first.source = hiddenRegionTag) (closes : last.closing = true) (same : last.name = first.name)
    (nested : Nested compactModel outer body) :
    ∀ tag, .tag tag ∈ body → tag.IsVoid → tag.selfClosing = true := by
  intro tag member void
  obtain ⟨head, tail, rfl⟩ := List.append_of_mem member
  refine slashed (.tag first :: head) tag (tail ++ .tag last :: rest) (by simp) void ?_
  exact ⟨[], first, head, tail, last, rest, rfl, rfl, own, closes, same, nested_anywhere nested []⟩

end SlashedInside

/-- Properly nested pieces are settled if what follows them is. -/
theorem settles_nested {later : List Piece} (nested : Nested compactModel outer parts) (slashed : SlashedInside parts)
    (settled : Settles map later) : Settles map (parts ++ later) := by
  induction nested generalizing later with
  | nil => exact settled
  | @char _ c rest differs _ _ ih =>
    have parted : SlashedInside ([.char c] ++ rest) := slashed
    exact .char differs (ih parted.of_append.2 settled)
  | @void _ tag rest written void compact _ ih =>
    have parted : SlashedInside ([.tag tag] ++ rest) := slashed
    refine .tag written compact ?_ (ih parted.of_append.2 settled)
    intro own
    exact (opens_of_hiddenRegionTag written own).2.2 void.2
  | @element _ first last body rest wFirst wLast opens closes same cFirst cLast nested _ ihBody ihRest =>
    have parted : SlashedInside ([.tag first] ++ (body ++ ([.tag last] ++ rest))) := slashed
    obtain ⟨inside, beyond⟩ := parted.of_append.2.of_append
    have after := ihRest beyond.of_append.2 settled
    have shape : .tag first :: (body ++ .tag last :: rest) ++ later =
        .tag first :: (body ++ .tag last :: (rest ++ later)) := by simp
    rw [shape]
    by_cases own : first.source = hiddenRegionTag
    · exact .hidden wFirst cFirst own wLast cLast closes same nested (slashed.inside own closes same nested) after
    · refine .tag wFirst cFirst own (ihBody inside (.tag wLast cLast ?_ after))
      intro own'
      exact absurd (opens_of_hiddenRegionTag wLast own').1 (by simp [closes])

/-- In properly nested markup no known shortcode is left in text outside invisible regions, if the void
elements inside these regions are written with a slash. -/
theorem noneVisible_replace (map : EmojiImages) {markup : List Char} (fragment : Fragment compactModel [] markup)
    (slashed : SlashedInside (pieces markup)) : NoneVisible map (pieces (replace map markup)) := by
  unfold replace
  split
  · rename_i empty
    intro _ code _ _ _ known
    rw [EmojiImages.isEmpty, List.isEmpty_iff] at empty
    exact absurd (by simp [EmojiImages.get?, empty]) known
  · have settled : Settles map (pieces markup ++ []) := settles_nested fragment slashed .nil
    rw [List.append_nil] at settled
    simpa only [source_pieces] using settled.text

/-- The pieces of an invisible region with a void element in it and of a shortcode after the region. -/
def regionPieces (tag : Tag) : List Piece :=
  .tag ⟨"span".toList, false, false, hiddenRegionTag⟩ :: .tag tag :: .tag (.stop "span".toList) :: codePieces ['b']

theorem nested_regionPieces {tag : Tag} (written : tag.IsWritten) (void : tag.IsVoid) (compact : tag.IsCompact) :
    Nested compactModel [] (regionPieces tag) := by
  have opening : (⟨"span".toList, false, false, hiddenRegionTag⟩ : Tag).IsWritten := by
    unfold Tag.IsWritten
    decide
  have shortcode : Nested compactModel [] (codePieces ['b']) :=
    .char (by decide) trivial (.char (by decide) trivial (.char (by decide) trivial .nil))
  have opens := opens_of_hiddenRegionTag opening rfl
  have compact' : (⟨"span".toList, false, false, hiddenRegionTag⟩ : Tag).IsCompact :=
    ⟨"span class=\"invisible\"".toList, by decide, by decide, by decide⟩
  have body : Nested compactModel ["span".toList] [.tag tag] := .void written void compact .nil
  exact .element opening (Tag.stop_isWritten (by decide)) opens rfl rfl compact' (Tag.stop_isCompact (by decide))
    body shortcode

/-- A line break with a slash leaves an invisible region closed before a shortcode. -/
theorem noneVisible_replace_slash :
    let map : EmojiImages := ⟨[("b".toList, "u".toList)]⟩
    let markup := "<span class=\"invisible\"><br /></span>:b:".toList
    Fragment compactModel [] markup ∧ SlashedInside (pieces markup) ∧
      NoneVisible map (pieces (replace map markup)) := by
  intro map markup
  let tag : Tag := ⟨"br".toList, false, true, "<br />".toList⟩
  have written : tag.IsWritten := by
    unfold Tag.IsWritten
    decide
  have nested := nested_regionPieces written ⟨rfl, by decide⟩ ⟨"br /".toList, by decide, by decide, by decide⟩
  have cut : pieces markup = regionPieces tag := nested.pieces_sourceOf
  have fragment : Fragment compactModel [] markup := Fragment.of_nested nested
  have slashed : SlashedInside (pieces markup) := by
    rintro before other after whole void -
    have member : .tag other ∈ regionPieces tag := by rw [← cut, whole]; simp
    simp only [regionPieces, codePieces, List.mem_cons, Piece.tag.injEq, List.mem_map] at member
    rcases member with rfl | rfl | rfl | ⟨_, _, same⟩
    · exact absurd void.2 (by decide)
    · rfl
    · exact absurd void.1 (by decide)
    · cases same
  exact ⟨fragment, slashed, noneVisible_replace map fragment slashed⟩

/-- A line break without a slash keeps an invisible region open, and a shortcode after it is not replaced. -/
theorem not_noneVisible_break :
    let map : EmojiImages := ⟨[("b".toList, "u".toList)]⟩
    let markup := "<span class=\"invisible\"><br></span>:b:".toList
    Fragment compactModel [] markup ∧ ¬NoneVisible map (pieces (replace map markup)) := by
  intro map markup
  let tag : Tag := ⟨"br".toList, false, false, "<br>".toList⟩
  have written : tag.IsWritten := by
    unfold Tag.IsWritten
    decide
  have nested := nested_regionPieces written ⟨rfl, by decide⟩ ⟨"br".toList, by decide, by decide, by decide⟩
  have unchanged : replace map markup = markup := by decide
  have cut : pieces (replace map markup) = regionPieces tag := by
    rw [unchanged]
    exact nested.pieces_sourceOf
  refine ⟨Fragment.of_nested nested, fun settled => ?_⟩
  obtain ⟨_, _, _, tail, last, back, _, after, _⟩ := settled
    [.tag ⟨"span".toList, false, false, hiddenRegionTag⟩, .tag tag, .tag (.stop "span".toList)] ['b'] []
    (cut.trans (by simp [regionPieces])) (by decide) (by decide)
  simp at after

end PostMarkup.Emoji
