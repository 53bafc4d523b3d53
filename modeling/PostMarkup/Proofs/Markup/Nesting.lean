import PostMarkup.Proofs.Markup.Written

/-! # Properly nested markup

Markup is properly nested when every `<` in it starts a tag and its tags match like brackets. A
content model says in addition which tags and characters may stand inside which elements. Nesting is
given twice: `Nested` follows the elements, and `Walk` reads the pieces from left to right with the
list of open elements. `nested_iff_walk` states that both agree.
-/

namespace PostMarkup

/-- The elements that consist of one tag. -/
def voidNames : List (List Char) := ["br".toList, "hr".toList, "img".toList]

namespace Tag

/-- Whether a tag opens an element that a closing tag ends. -/
def Opens (tag : Tag) : Prop :=
  tag.closing = false ∧ tag.selfClosing = false ∧ tag.name ∉ voidNames

/-- Whether a tag is an element on its own. -/
def IsVoid (tag : Tag) : Prop := tag.closing = false ∧ tag.name ∈ voidNames

end Tag

/-- A piece whose characters are written anew if it is a tag. -/
def Piece.rewrite (write : Tag → List Char) : Piece → Piece
  | .char c => .char c
  | .tag written => .tag { written with source := write written }

/-- What may stand where. Each permission depends on the names of the elements around, innermost
first. -/
structure ContentModel where
  tag : List (List Char) → Tag → Prop
  char : List (List Char) → Char → Prop

def ContentModel.Permits (model : ContentModel) (outer : List (List Char)) : Piece → Prop
  | .char c => model.char outer c
  | .tag tag => model.tag outer tag

/-- The pieces inside the elements `outer` are properly nested and permitted by a model. -/
inductive Nested (model : ContentModel) : List (List Char) → List Piece → Prop
  | nil {outer : List (List Char)} : Nested model outer []
  | char {outer : List (List Char)} {c : Char} {rest : List Piece} :
      c ≠ '<' → model.char outer c → Nested model outer rest → Nested model outer (.char c :: rest)
  | void {outer : List (List Char)} {tag : Tag} {rest : List Piece} :
      tag.IsWritten → tag.IsVoid → model.tag outer tag →
      Nested model outer rest → Nested model outer (.tag tag :: rest)
  | element {outer : List (List Char)} {first last : Tag} {body rest : List Piece} :
      first.IsWritten → last.IsWritten → first.Opens → last.closing = true →
      last.name = first.name → model.tag outer first → model.tag outer last →
      Nested model (first.name :: outer) body → Nested model outer rest →
      Nested model outer (.tag first :: (body ++ .tag last :: rest))

/-- A text of markup that is properly nested and permitted by a model inside the elements
`outer`. -/
def Fragment (model : ContentModel) (outer : List (List Char)) (markup : List Char) : Prop :=
  Nested model outer (pieces markup)

/-- Pieces that lead from some open elements to others, where the elements `base` around stay open
throughout. -/
inductive Walk (model : ContentModel) (base : List (List Char)) :
    List (List Char) → List Piece → List (List Char) → Prop
  | stop {opened : List (List Char)} : Walk model base opened [] opened
  | char {opened final : List (List Char)} {c : Char} {rest : List Piece} :
      c ≠ '<' → model.char (opened ++ base) c → Walk model base opened rest final →
      Walk model base opened (.char c :: rest) final
  | void {opened final : List (List Char)} {tag : Tag} {rest : List Piece} :
      tag.IsWritten → tag.IsVoid → model.tag (opened ++ base) tag →
      Walk model base opened rest final → Walk model base opened (.tag tag :: rest) final
  | enter {opened final : List (List Char)} {first : Tag} {rest : List Piece} :
      first.IsWritten → first.Opens → model.tag (opened ++ base) first →
      Walk model base (first.name :: opened) rest final →
      Walk model base opened (.tag first :: rest) final
  | leave {opened final : List (List Char)} {last : Tag} {rest : List Piece} :
      last.IsWritten → last.closing = true → model.tag (opened ++ base) last →
      Walk model base opened rest final →
      Walk model base (last.name :: opened) (.tag last :: rest) final

variable {model : ContentModel} {base outer opened middle final : List (List Char)}
  {left right parts : List Piece}

/-- Pieces are left as they are if each of their tags is. -/
theorem Piece.map_rewrite_eq {write : Tag → List Char}
    (same : ∀ tag, .tag tag ∈ parts → write tag = tag.source) : parts.map (Piece.rewrite write) = parts := by
  refine (List.map_congr_left fun part member => ?_).trans (List.map_id parts)
  cases part with
  | char c => rfl
  | tag tag => rw [rewrite, same tag member, id]

namespace Nested

theorem append (first : Nested model outer left) (second : Nested model outer right) :
    Nested model outer (left ++ right) := by
  induction first with
  | nil => exact second
  | char differs permitted _ ih => exact .char differs permitted (ih second)
  | void written void permitted _ ih => exact .void written void permitted (ih second)
  | element wFirst wLast opens closes same pFirst pLast inside _ _ ih =>
    simpa only [List.cons_append, List.append_assoc] using
      Nested.element wFirst wLast opens closes same pFirst pLast inside (ih second)

theorem isWritten (nested : Nested model outer parts) : ∀ part ∈ parts, part.IsWritten := by
  induction nested with
  | nil => simp
  | char differs _ _ ih => exact List.forall_mem_cons.mpr ⟨differs, ih⟩
  | void written _ _ _ ih => exact List.forall_mem_cons.mpr ⟨written, ih⟩
  | element wFirst wLast _ _ _ _ _ _ _ ihBody ihRest =>
    intro part member
    simp only [List.mem_cons, List.mem_append] at member
    rcases member with rfl | member | rfl | member
    · exact wFirst
    · exact ihBody part member
    · exact wLast
    · exact ihRest part member

/-- Each piece is permitted somewhere. -/
theorem exists_permits (nested : Nested model outer parts) : ∀ part ∈ parts, ∃ around, model.Permits around part := by
  induction nested with
  | nil => simp
  | char _ permitted _ ih => exact List.forall_mem_cons.mpr ⟨⟨_, permitted⟩, ih⟩
  | void _ _ permitted _ ih => exact List.forall_mem_cons.mpr ⟨⟨_, permitted⟩, ih⟩
  | element _ _ _ _ _ pFirst pLast _ _ ihBody ihRest =>
    refine List.forall_mem_cons.mpr ⟨⟨_, pFirst⟩, List.forall_mem_append.mpr ⟨ihBody, ?_⟩⟩
    exact List.forall_mem_cons.mpr ⟨⟨_, pLast⟩, ihRest⟩

/-- Each tag is permitted somewhere. -/
theorem exists_permitted (nested : Nested model outer parts) {tag : Tag} (member : .tag tag ∈ parts) :
    ∃ around, model.tag around tag :=
  nested.exists_permits _ member

/-- A character that is permitted nowhere does not occur. -/
theorem not_mem_sourceOf {c : Char} (nested : Nested model outer parts) (chars : ∀ outer, ¬model.char outer c)
    (tags : ∀ outer tag, model.tag outer tag → c ∉ tag.source) : c ∉ sourceOf parts := by
  intro member
  obtain ⟨part, listed, inside⟩ := List.mem_flatMap.mp member
  obtain ⟨around, permitted⟩ := nested.exists_permits part listed
  cases part with
  | char d => exact chars around (List.mem_singleton.mp inside ▸ permitted)
  | tag tag => exact tags around tag permitted inside

/-- The tags of nested markup may be told to have what all of them have. -/
theorem restrict {kind : Tag → Prop} (nested : Nested model outer parts) (each : ∀ tag, .tag tag ∈ parts → kind tag) :
    Nested { model with tag := fun outer tag => model.tag outer tag ∧ kind tag } outer parts := by
  induction nested with
  | nil => exact .nil
  | char differs permitted _ ih =>
    exact .char differs permitted (ih fun tag member => each tag (List.mem_cons_of_mem _ member))
  | void written void permitted _ ih =>
    exact .void written void ⟨permitted, each _ List.mem_cons_self⟩
      (ih fun tag member => each tag (List.mem_cons_of_mem _ member))
  | @element _ first last body rest wFirst wLast opens closes same pFirst pLast _ _ ihBody ihRest =>
    refine .element wFirst wLast opens closes same ⟨pFirst, each first ?_⟩ ⟨pLast, each last ?_⟩
      (ihBody fun tag member => each tag ?_) (ihRest fun tag member => each tag ?_)
    all_goals simp_all

/-- Tags may be rewritten, and the surroundings may change, as long as the models permit it. -/
theorem rewrite {model' : ContentModel} (write : Tag → List Char)
    (related : List (List Char) → List (List Char) → Prop)
    (grows : ∀ name outer outer', related outer outer' → related (name :: outer) (name :: outer'))
    (chars : ∀ outer outer' c, c ≠ '<' → related outer outer' → model.char outer c →
      model'.char outer' c)
    (tags : ∀ outer outer' tag, related outer outer' → tag.IsWritten → model.tag outer tag →
      Tag.IsWritten { tag with source := write tag } ∧
        model'.tag outer' { tag with source := write tag })
    {outer' : List (List Char)} (nested : Nested model outer parts)
    (start : related outer outer') :
    Nested model' outer' (parts.map (Piece.rewrite write)) := by
  induction nested generalizing outer' with
  | nil => exact .nil
  | char differs permitted _ ih =>
    exact .char differs (chars _ _ _ differs start permitted) (ih start)
  | void written void permitted _ ih =>
    obtain ⟨written', permitted'⟩ := tags _ _ _ start written permitted
    exact .void written' void permitted' (ih start)
  | element wFirst wLast opens closes same pFirst pLast _ _ ihBody ihRest =>
    obtain ⟨wFirst', pFirst'⟩ := tags _ _ _ start wFirst pFirst
    obtain ⟨wLast', pLast'⟩ := tags _ _ _ start wLast pLast
    simp only [List.map_cons, List.map_append]
    exact .element wFirst' wLast' opens closes same pFirst' pLast'
      (ihBody (grows _ _ _ start)) (ihRest start)

/-- The surroundings may change as long as the models permit it. -/
theorem transport {model' : ContentModel} (related : List (List Char) → List (List Char) → Prop)
    (grows : ∀ name outer outer', related outer outer' → related (name :: outer) (name :: outer'))
    (chars : ∀ outer outer' c, c ≠ '<' → related outer outer' → model.char outer c →
      model'.char outer' c)
    (tags : ∀ outer outer' tag, related outer outer' → model.tag outer tag →
      model'.tag outer' tag)
    {outer' : List (List Char)} (nested : Nested model outer parts)
    (start : related outer outer') : Nested model' outer' parts := by
  have same : parts.map (Piece.rewrite Tag.source) = parts := Piece.map_rewrite_eq fun _ _ => rfl
  rw [← same]
  exact nested.rewrite Tag.source related grows chars
    (fun outer outer' tag begun written permitted => ⟨written, tags outer outer' tag begun permitted⟩)
    start

/-- What one model permits another one may permit too. -/
theorem mono {model' : ContentModel}
    (chars : ∀ outer c, c ≠ '<' → model.char outer c → model'.char outer c)
    (tags : ∀ outer tag, model.tag outer tag → model'.tag outer tag)
    (nested : Nested model outer parts) : Nested model' outer parts :=
  nested.transport (· = ·) (fun _ _ _ same => congrArg _ same)
    (fun _ _ c differs same permitted => same ▸ chars _ c differs permitted)
    (fun _ _ tag same permitted => same ▸ tags _ tag permitted) rfl

end Nested

namespace Walk

theorem append (first : Walk model base opened left middle)
    (second : Walk model base middle right final) :
    Walk model base opened (left ++ right) final := by
  induction first with
  | stop => exact second
  | char differs permitted _ ih => exact .char differs permitted (ih second)
  | void written void permitted _ ih => exact .void written void permitted (ih second)
  | enter written opens permitted _ ih => exact .enter written opens permitted (ih second)
  | leave written closes permitted _ ih => exact .leave written closes permitted (ih second)

/-- A walk may be interrupted anywhere. -/
theorem split (walk : Walk model base opened (left ++ right) final) :
    ∃ middle, Walk model base opened left middle ∧ Walk model base middle right final := by
  induction left generalizing opened with
  | nil => exact ⟨opened, .stop, walk⟩
  | cons part others ih =>
    rw [List.cons_append] at walk
    cases walk with
    | char differs permitted walk =>
      obtain ⟨middle, first, second⟩ := ih walk
      exact ⟨middle, .char differs permitted first, second⟩
    | void written void permitted walk =>
      obtain ⟨middle, first, second⟩ := ih walk
      exact ⟨middle, .void written void permitted first, second⟩
    | enter written opens permitted walk =>
      obtain ⟨middle, first, second⟩ := ih walk
      exact ⟨middle, .enter written opens permitted first, second⟩
    | leave written closes permitted walk =>
      obtain ⟨middle, first, second⟩ := ih walk
      exact ⟨middle, .leave written closes permitted first, second⟩

/-- Properly nested pieces lead back to the elements that are open before them. -/
theorem of_nested (nested : Nested model (opened ++ base) parts) :
    Walk model base opened parts opened := by
  generalize around : opened ++ base = outer at nested
  induction nested generalizing opened with
  | nil => exact .stop
  | char differs permitted _ ih => exact .char differs (around ▸ permitted) (ih around)
  | void written void permitted _ ih => exact .void written void (around ▸ permitted) (ih around)
  | element wFirst wLast opens closes same pFirst pLast _ _ ihBody ihRest =>
    subst around
    exact .enter wFirst opens pFirst
      ((ihBody rfl).append (same ▸ .leave wLast closes pLast (ihRest rfl)))

/-- A walk that ends with fewer open elements closes the innermost one, after a properly nested
body. -/
theorem enclosed {name : List Char} (walk : Walk model base (name :: opened) parts final)
    (fewer : final.length ≤ opened.length) :
    ∃ body last rest, parts = body ++ .tag last :: rest ∧ last.IsWritten ∧ last.closing = true ∧
      last.name = name ∧ model.tag (opened ++ base) last ∧
      Nested model (name :: (opened ++ base)) body ∧ Walk model base opened rest final := by
  induction size : parts.length using Nat.strongRecOn generalizing parts name opened with
  | ind size ih =>
    subst size
    cases walk with
    | stop => exact absurd fewer (by simp)
    | char differs permitted walk =>
      obtain ⟨body, last, rest, rfl, written, closes, same, pLast, inside, after⟩ :=
        ih _ (by simp) walk fewer rfl
      exact ⟨_, last, rest, rfl, written, closes, same, pLast, .char differs permitted inside, after⟩
    | void writtenTag void permitted walk =>
      obtain ⟨body, last, rest, rfl, written, closes, same, pLast, inside, after⟩ :=
        ih _ (by simp) walk fewer rfl
      exact ⟨_, last, rest, rfl, written, closes, same, pLast,
        .void writtenTag void permitted inside, after⟩
    | @enter _ _ first _ writtenFirst opens permitted walk =>
      obtain ⟨body, last, rest, rfl, written, closes, same, pLast, inside, after⟩ :=
        ih _ (by simp) walk (Nat.le_succ_of_le fewer) rfl
      obtain ⟨body', last', rest', rfl, written', closes', same', pLast', inside', after'⟩ :=
        ih _ (by simp; omega) after fewer rfl
      refine ⟨.tag first :: (body ++ .tag last :: body'), last', rest', ?_, written', closes', same',
        pLast', ?_, after'⟩
      · simp only [List.cons_append, List.append_assoc]
      · exact .element writtenFirst written opens closes same permitted pLast inside inside'
    | leave written closes permitted walk =>
      exact ⟨[], _, _, rfl, written, closes, rfl, permitted, .nil, walk⟩

/-- The pieces determine which elements are open after them. -/
theorem deterministic {final' : List (List Char)} (first : Walk model base opened parts final)
    (second : Walk model base opened parts final') : final = final' := by
  induction first with
  | stop =>
    cases second
    rfl
  | char _ _ _ ih =>
    cases second with
    | char _ _ second => exact ih second
  | void _ void _ _ ih =>
    cases second with
    | void _ _ _ second => exact ih second
    | enter _ opens _ _ => exact absurd void.2 opens.2.2
    | leave _ closes _ _ => exact absurd closes (by simp [void.1])
  | enter _ opens _ _ ih =>
    cases second with
    | void _ void _ _ => exact absurd void.2 opens.2.2
    | enter _ _ _ second => exact ih second
    | leave _ closes _ _ => exact absurd closes (by simp [opens.1])
  | @leave opened _ last _ _ closes _ _ ih =>
    generalize around : last.name :: opened = opened' at second
    cases second with
    | void _ void _ _ => exact absurd closes (by simp [void.1])
    | enter _ opens _ _ => exact absurd closes (by simp [opens.1])
    | leave _ _ _ second =>
      obtain ⟨_, rfl⟩ := List.cons.inj around
      exact ih second

end Walk

theorem nested_of_walk (walk : Walk model base [] parts []) : Nested model base parts := by
  induction size : parts.length using Nat.strongRecOn generalizing parts with
  | ind size ih =>
    subst size
    cases walk with
    | stop => exact .nil
    | char differs permitted walk => exact .char differs permitted (ih _ (by simp) walk rfl)
    | void written void permitted walk =>
      exact .void written void permitted (ih _ (by simp) walk rfl)
    | enter wFirst opens pFirst walk =>
      obtain ⟨body, last, rest, rfl, wLast, closes, same, pLast, inside, after⟩ :=
        walk.enclosed (Nat.le_refl _)
      exact .element wFirst wLast opens closes same pFirst pLast inside
        (ih _ (by simp; omega) after rfl)

/-- Pieces are properly nested exactly when reading them closes each element they open and no
other. -/
theorem nested_iff_walk : Nested model base parts ↔ Walk model base [] parts [] :=
  ⟨fun nested => Walk.of_nested (by simpa using nested), nested_of_walk⟩

/-- What follows properly nested pieces in properly nested pieces is properly nested. -/
theorem Nested.of_append (whole : Nested model outer (left ++ right))
    (first : Nested model outer left) : Nested model outer right := by
  obtain ⟨middle, walk, rest⟩ := (nested_iff_walk.mp whole).split
  obtain rfl := walk.deterministic (nested_iff_walk.mp first)
  exact nested_iff_walk.mpr rest

end PostMarkup
