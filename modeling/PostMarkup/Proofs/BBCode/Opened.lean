import PostMarkup.Proofs.BBCode.Pairing

/-! # Open brackets among tokens

The brackets that a reader keeps open are those that are open among the tokens it has found, as far as
they may still be closed. The others are given up: their elements are left, or no closing bracket of
their name follows.
-/

namespace PostMarkup.BBCode

open PostMarkup.Text PostMarkup.BBCode.State

/-- Whether brackets may still be closed: the reader stands in their element or has not yet come to
it, and the tokens to come hold a closing bracket of their name. -/
def State.MayClose (state : State) (rest : List Token) (label : Label) : Prop :=
  (label.element ∈ state.elements ∨ label.element = 0 ∨ state.lastElement < label.element) ∧
    closesIn label.name (textOf rest) = true

/-- Open brackets, and tokens among which they were opened. The brackets that are not listed and
that concern open ones are paired. -/
inductive Opened (table : Table) (mayClose : Label → Prop) : List OpenBracket → List Token → Prop
  | nil {found : List Token} : Opened table mayClose [] found
  | cons {bracket : OpenBracket} {others : List OpenBracket} {front inside : List Token} {first : Token} :
      Opened table mayClose others front → first.opens table bracket.label = true →
      (∀ other ∈ others, mayClose other.label → other.element ≤ bracket.element) →
      (∀ other ∈ bracket :: others, mayClose other.label → Paired table other.label inside) →
      Opened table mayClose (bracket :: others) (front ++ first :: inside)

variable {table : Table} {mayClose : Label → Prop} {brackets inner others : List OpenBracket}
  {bracket : OpenBracket} {found more rest : List Token} {token : Token} {state next : State}
  {definition : Definition} {label : Label}

namespace Opened

theorem mono {mayClose' : Label → Prop} (weaker : ∀ label, mayClose' label → mayClose label)
    (opened : Opened table mayClose brackets found) : Opened table mayClose' brackets found := by
  induction opened with
  | nil => exact .nil
  | cons _ first order paired ih =>
    exact .cons ih first (fun other member closes => order other member (weaker _ closes))
      fun other member closes => paired other member (weaker _ closes)

/-- Tokens are read in which the open brackets are neither closed nor hidden. -/
theorem extend (opened : Opened table mayClose brackets found)
    (paired : ∀ other ∈ brackets, mayClose other.label → Paired table other.label more) :
    Opened table mayClose brackets (found ++ more) := by
  cases opened with
  | nil => exact .nil
  | cons before first order inside =>
    rw [List.append_assoc, List.cons_append]
    exact .cons before first order fun other member closes =>
      (inside other member closes).append (paired other member closes)

/-- The place of an open bracket among the tokens. -/
theorem split (opened : Opened table mayClose (inner ++ bracket :: others) found) :
    ∃ front first inside, found = front ++ first :: inside ∧ Opened table mayClose others front ∧
      first.opens table bracket.label = true ∧
      (mayClose bracket.label → ∀ later ∈ inner, bracket.element ≤ later.element) ∧
      ∀ other ∈ bracket :: others, mayClose other.label →
        (∀ later ∈ inner, later.label ≠ other.label) → Paired table other.label inside := by
  induction inner generalizing found with
  | nil =>
    cases opened with
    | cons before first order paired =>
      exact ⟨_, _, _, rfl, before, first, by simp, fun other member closes _ => paired other member closes⟩
  | cons later more ih =>
    cases opened with
    | @cons _ _ _ inside' first' before begun order' paired' =>
      obtain ⟨front, first, inside, rfl, below, opens, order, paired⟩ := ih before
      have lower : ∀ other ∈ bracket :: others, other ∈ more ++ bracket :: others :=
        fun other member => List.mem_append_right _ member
      refine ⟨front, first, inside ++ first' :: inside', by simp, below, opens, ?_, ?_⟩
      · intro closes
        refine List.forall_mem_cons.mpr ⟨order' _ (lower _ List.mem_cons_self) closes, order closes⟩
      · intro other member closes differs
        obtain ⟨differs', differs⟩ := List.forall_mem_cons.mp differs
        have further := paired' other (List.mem_cons_of_mem _ (lower _ member)) closes
        exact (paired other member closes differs).append
          (.cons (Token.quiet_of_opens begun differs') further)

end Opened

theorem textOf_cons (token : Token) (rest : List Token) :
    textOf (token :: rest) = sourceOf token.pieces ++ textOf rest := by
  simp [textOf]

theorem closesIn_cons {name : List Char} (found : closesIn name (textOf rest) = true) (token : Token) :
    closesIn name (textOf (token :: rest)) = true := by
  rw [textOf_cons, closesIn, lowerAscii, List.map_append]
  exact occursIn_append_of_right found _

theorem closesIn_self {element : Nat} {bracket : Bracket} (written : bracket.IsWritten)
    (closing : bracket.closing = true) (rest : List Token) :
    closesIn bracket.name (textOf (.bracket element bracket :: rest)) = true := by
  rw [textOf_cons, Token.pieces, sourceOf_map_char, closesIn]
  have lower := (written.of_closing closing).2
  rw [lowerAscii] at lower ⊢
  rw [List.map_append, lower]
  exact occursIn_start _ _

theorem State.element_mem (state : State) : state.element ∈ state.elements ∨ state.element = 0 := by
  unfold State.element
  cases state.elements with
  | nil => exact .inr rfl
  | cons innermost around => exact .inl List.mem_cons_self

namespace State.MayClose

/-- Brackets of the present element may be closed. -/
theorem here {name : List Char} (found : closesIn name (textOf rest) = true) :
    state.MayClose rest ⟨state.element, name⟩ :=
  ⟨state.element_mem.imp_right .inl, found⟩

theorem mono (same : state.Agrees next) (closes : next.MayClose rest label) (token : Token) :
    state.MayClose (token :: rest) label := by
  obtain ⟨place, later⟩ := closes
  rw [← same.elements, ← same.lastElement] at place
  exact ⟨place, closesIn_cons later token⟩

/-- A tag leads to no element in which the reader has been before, but for those around. -/
theorem of_afterTag {tag : Tag} (closes : (state.afterTag tag).MayClose rest label) :
    state.MayClose (.tag tag :: rest) label := by
  obtain ⟨place, later⟩ := closes
  refine ⟨?_, closesIn_cons later _⟩
  unfold State.afterTag at place
  split at place
  · rcases place with inside | outside | fresh
    · exact .inl (List.mem_of_mem_tail inside)
    · exact .inr (.inl outside)
    · exact .inr (.inr fresh)
  · split at place
    · exact place
    · rcases place with inside | outside | fresh
      · rcases List.mem_cons.mp inside with new | inside
        · exact .inr (.inr (new ▸ Nat.lt_succ_self _))
        · exact .inl inside
      · exact .inr (.inl outside)
      · exact .inr (.inr (Nat.lt_of_succ_lt fresh))

end State.MayClose

/-- What a reader knows of the brackets among the tokens found so far, as far as the rest of the
tokens concerns them. -/
structure Tracks (table : Table) (state : State) (found rest : List Token) : Prop where
  grows : state.elements.Pairwise fun inner around => around < inner
  bounds : ∀ element ∈ state.elements, element ≤ state.lastElement
  below : ∀ bracket ∈ state.openBrackets, bracket.element ≤ state.lastElement
  opened : Opened table (state.MayClose rest) state.openBrackets found
  counted : ∀ label, state.MayClose rest label →
    openAfter table label 0 found = state.openBrackets.countP fun bracket => bracket.label = label

namespace Tracks

theorem start : Tracks table .start [] rest where
  grows := .nil
  bounds := by simp [State.start]
  below := by simp [State.start]
  opened := .nil
  counted _ _ := rfl

/-- No element around has a greater number than the innermost one. -/
theorem le_element (tracks : Tracks table state found rest) (closes : state.MayClose more label)
    (old : label.element ≤ state.lastElement) : label.element ≤ state.element := by
  rcases closes.1 with inside | outside | fresh
  · have grows := tracks.grows
    unfold State.element
    cases shape : state.elements with
    | nil =>
      rw [shape] at inside
      cases inside
    | cons innermost around =>
      rw [shape] at inside grows
      rcases List.mem_cons.mp inside with same | further
      · exact Nat.le_of_eq same
      · exact Nat.le_of_lt ((List.pairwise_cons.mp grows).1 _ further)
  · rw [outside]
    exact Nat.zero_le _
  · exact absurd fresh (Nat.not_lt.mpr old)

theorem element_le (tracks : Tracks table state found rest) : state.element ≤ state.lastElement := by
  have bounds := tracks.bounds
  unfold State.element
  cases shape : state.elements with
  | nil => exact Nat.zero_le _
  | cons innermost around =>
    rw [shape] at bounds
    exact bounds innermost List.mem_cons_self

/-- A token is read that opens no bracket and closes none of the open ones. -/
theorem pass (tracks : Tracks table state found (token :: rest))
    (grows : next.elements.Pairwise fun inner around => around < inner)
    (bounds : ∀ element ∈ next.elements, element ≤ next.lastElement)
    (order : state.lastElement ≤ next.lastElement) (same : next.openBrackets = state.openBrackets)
    (weaker : ∀ label, next.MayClose rest label → state.MayClose (token :: rest) label)
    (quiet : ∀ label, token.opens table label = false)
    (unmatched : ∀ label, token.closes table label = true →
      ∀ bracket ∈ state.openBrackets, bracket.label ≠ label) :
    Tracks table next (found ++ [token]) rest where
  grows := grows
  bounds := bounds
  below bracket member := Nat.le_trans (tracks.below bracket (same ▸ member)) order
  opened := by
    rw [same]
    refine (tracks.opened.mono weaker).extend fun other member _ => ?_
    have other : token.closes table other.label = false :=
      Bool.eq_false_iff.mpr fun closes => unmatched _ closes other member rfl
    exact .cons ⟨quiet _, other⟩ .nil
  counted label closes := by
    have counted := tracks.counted label (weaker label closes)
    rw [same, openAfter_concat, quiet, if_neg Bool.false_ne_true, counted]
    split
    · rename_i ends
      have none : state.openBrackets.countP (fun bracket => bracket.label = label) = 0 :=
        List.countP_eq_zero.mpr fun bracket member => by simpa using unmatched label ends bracket member
      rw [none]
    · rfl

theorem afterTag {tag : Tag} (tracks : Tracks table state found (.tag tag :: rest)) :
    Tracks table (state.afterTag tag) (found ++ [.tag tag]) rest := by
  have weaker : ∀ label, (state.afterTag tag).MayClose rest label →
      state.MayClose (.tag tag :: rest) label := fun _ => .of_afterTag
  have unmatched : ∀ label, (Token.tag tag).closes table label = true →
      ∀ bracket ∈ state.openBrackets, bracket.label ≠ label := fun _ closes => by cases closes
  unfold State.afterTag at weaker ⊢
  split
  · rename_i closing
    rw [if_pos closing] at weaker
    exact tracks.pass tracks.grows.tail (fun element member => tracks.bounds element (List.mem_of_mem_tail member))
      (Nat.le_refl _) rfl weaker (fun _ => rfl) unmatched
  · rename_i opening
    rw [if_neg opening] at weaker
    split
    · rename_i single
      rw [if_pos single] at weaker
      exact tracks.pass tracks.grows tracks.bounds (Nat.le_refl _) rfl weaker (fun _ => rfl) unmatched
    · rename_i opens
      rw [if_neg opens] at weaker
      refine tracks.pass (List.pairwise_cons.mpr ⟨?_, tracks.grows⟩) ?_ (Nat.le_succ _) rfl weaker
        (fun _ => rfl) unmatched
      · exact fun element member => Nat.lt_succ_of_le (tracks.bounds element member)
      · exact List.forall_mem_cons.mpr
          ⟨Nat.le_refl _, fun element member => Nat.le_succ_of_le (tracks.bounds element member)⟩

/-- A bracket tag is copied. -/
theorem copy {written : Bracket} (tracks : Tracks table state found (.bracket state.element written :: rest))
    (quiet : ∀ label, (Token.bracket state.element written).opens table label = false)
    (unmatched : ∀ label, (Token.bracket state.element written).closes table label = true →
      ∀ bracket ∈ state.openBrackets, bracket.label ≠ label) :
    Tracks table (state.copy written.source) (found ++ [.bracket state.element written]) rest :=
  tracks.pass tracks.grows tracks.bounds (Nat.le_refl _) rfl
    (fun _ closes => closes.mono (.copy state _) _) quiet unmatched

/-- A bracket tag is opened. -/
theorem push {written : Bracket} (tracks : Tracks table state found (.bracket state.element written :: rest))
    (named : definition.name = written.name)
    (opens : (Token.bracket state.element written).opens table ⟨state.element, written.name⟩ = true) :
    Tracks table (state.push definition written) (found ++ [.bracket state.element written]) rest := by
  have weaker (label : Label) (closes : (state.push definition written).MayClose rest label) :
      state.MayClose (.bracket state.element written :: rest) label :=
    closes.mono ⟨rfl, rfl, rfl⟩ _
  refine ⟨tracks.grows, tracks.bounds, ?_, ?_, ?_⟩
  · exact List.forall_mem_cons.mpr ⟨tracks.element_le, tracks.below⟩
  · refine .cons (tracks.opened.mono weaker) (by rwa [OpenBracket.label, named]) ?_ fun _ _ _ => .nil
    intro other member closes
    exact tracks.le_element closes (tracks.below other member)
  · intro label closes
    have counted := tracks.counted label (weaker label closes)
    rw [openAfter_concat, counted]
    show _ = List.countP _ (_ :: _)
    rw [List.countP_cons]
    by_cases own : label = ⟨state.element, written.name⟩
    · rw [own, opens]
      simp [OpenBracket.label, named]
    · obtain ⟨quiet, quiet'⟩ := Token.quiet_of_opens opens (Ne.symm own)
      simp [quiet, quiet', OpenBracket.label, named, Ne.symm own]

/-- An open bracket is closed, and those opened after it are given up: they stand in elements that are
left, or are not closed later. -/
theorem close {written : Bracket} {opened : OpenBracket}
    (tracks : Tracks table state found (.bracket state.element written :: rest))
    (isWritten : written.IsWritten) (closing : written.closing = true)
    (closes : (Token.bracket state.element written).closes table ⟨state.element, written.name⟩ = true)
    (whole : state.openBrackets = inner ++ opened :: others)
    (own : opened.label = ⟨state.element, written.name⟩)
    (differs : ∀ later ∈ inner, later.label ≠ ⟨state.element, written.name⟩)
    (uncrossed : ∀ other ∈ inner, other.element = state.element →
      closesIn other.definition.name (textOf rest) = false) (text : List Char) :
    Tracks table { state with openBrackets := others, written := text }
      (found ++ [.bracket state.element written]) rest := by
  have weaker (label : Label) (later : { state with openBrackets := others, written := text }.MayClose rest label) :
      state.MayClose (.bracket state.element written :: rest) label :=
    later.mono ⟨rfl, rfl, rfl⟩ _
  have tracked := tracks.opened
  rw [whole] at tracked
  obtain ⟨front, first, inside, rfl, before, opens, order, paired⟩ := tracked.split
  have mayClose : state.MayClose (.bracket state.element written :: rest) opened.label :=
    own ▸ .here (closesIn_self isWritten closing rest)
  -- A bracket opened since stands further in, or in the same element, where none may be closed.
  have apart (label : Label) (later : state.MayClose rest label) :
      ∀ other ∈ inner, other.label ≠ label := by
    rintro other member rfl
    have old := tracks.below other (whole ▸ List.mem_append_left _ member)
    have upper : other.element ≤ state.element := tracks.le_element later old
    have lower := order mayClose other member
    have place : opened.element = state.element := congrArg Label.element own
    exact absurd later.2 (by simp [OpenBracket.label, uncrossed other member (by omega)])
  have silent (label : Label) (other : label ≠ opened.label) :
      (Token.bracket state.element written).opens table label = false ∧
        (Token.bracket state.element written).closes table label = false :=
    Token.quiet_of_closes closes (own ▸ Ne.symm other)
  refine ⟨tracks.grows, tracks.bounds, ?_, ?_, ?_⟩
  · exact fun other member => tracks.below other
      (whole ▸ List.mem_append_right _ (List.mem_cons_of_mem _ member))
  · rw [List.append_assoc]
    refine (before.mono weaker).extend fun other member later => ?_
    by_cases same : other.label = opened.label
    · have content := paired opened List.mem_cons_self mayClose (by rwa [own])
      rw [same]
      exact .pair opens content (own ▸ closes)
    · have content := paired other (List.mem_cons_of_mem _ member) (weaker _ later) (apart _ later)
      exact .cons (Token.quiet_of_opens opens (Ne.symm same)) (content.append (.cons (silent _ same) .nil))
  · intro label later
    have counted := tracks.counted label (weaker label later)
    have none : inner.countP (fun bracket => bracket.label = label) = 0 :=
      List.countP_eq_zero.mpr fun other member => by simpa using apart label later other member
    rw [whole, List.countP_append, List.countP_cons, none] at counted
    rw [openAfter_concat, counted]
    by_cases same : label = opened.label
    · rw [same, own, closes, Token.opens_eq_false_of_closes closes]
      simp
    · obtain ⟨quiet, quiet'⟩ := silent label same
      simp [quiet, quiet', Ne.symm same]

/-- Each step keeps track of the brackets. -/
theorem afterToken (tracks : Tracks table state found (token :: rest))
    (accords : Accords state (token :: rest)) (step : state.afterToken table rest token = .ok next) :
    Tracks table next (found ++ [token]) rest := by
  cases token with
  | tag tag =>
    cases step
    exact tracks.afterTag
  | char c =>
    cases step
    exact tracks.pass tracks.grows tracks.bounds (Nat.le_refl _) rfl
      (fun _ closes => closes.mono (.copy state _) _) (fun _ => rfl) fun _ closes => by cases closes
  | bracket element written =>
    obtain ⟨⟨rfl, _, isWritten⟩, _⟩ := accords
    have outcome := bracketStep table state written (textOf rest)
    rw [show state.afterBracket table written (textOf rest) = .ok next from step] at outcome
    cases outcome with
    | unknown unknown =>
      refine tracks.copy (fun label => Bool.eq_false_iff.mpr fun also => ?_) fun label also => ?_
      · obtain ⟨_, _, definition, listed, _⟩ := Token.opens_bracket_iff.mp also
        simp [unknown] at listed
      · obtain ⟨_, _, definition, listed⟩ := Token.closes_bracket_iff.mp also
        simp [unknown] at listed
    | opened closing defined takes =>
      exact tracks.push defined.2 (Token.opens_bracket_iff.mpr ⟨closing, rfl, _, defined.1, takes⟩)
    | refused closing defined refused =>
      refine tracks.copy (fun label => Bool.eq_false_iff.mpr fun also => ?_) fun label also => ?_
      · obtain ⟨_, _, definition, listed, takes⟩ := Token.opens_bracket_iff.mp also
        rw [defined.1] at listed
        cases listed
        exact refused takes
      · have ends := (Token.closes_bracket_iff.mp also).1
        simp [closing] at ends
    | unmatched closing defined unmatched =>
      refine tracks.copy (fun label => Bool.eq_false_iff.mpr fun also => ?_) fun label also => ?_
      · have begins := (Token.opens_bracket_iff.mp also).1
        simp [closing] at begins
      · obtain ⟨_, rfl, _⟩ := Token.closes_bracket_iff.mp also
        exact unmatched
    | closed closing defined whole own differs uncrossed =>
      exact tracks.close isWritten closing
        (Token.closes_bracket_iff.mpr ⟨closing, rfl, _, defined.1⟩) whole own differs uncrossed _

end Tracks

end PostMarkup.BBCode
