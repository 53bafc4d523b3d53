import PostMarkup.Proofs.Markup.TagForm

/-! # Markup in flow

Two content models for the markup of a post. In `flow`, before paragraphs are made, lines of text
and block elements follow one another at top level and in block quotes, and line feeds stand only
there and inside blocks. In `laidOut`, after that, all text stands in paragraphs and blocks. In both
no link stands in a link. What may stand somewhere depends on the outermost element around it that
is no block quote.
-/

namespace PostMarkup

/-- Elements within a line. -/
def inlineNames : List (List Char) :=
  ["em", "strong", "s", "sup", "u", "mark", "code", "a", "span", "img", "br"].map String.toList

def blockNames : List (List Char) :=
  ["ul", "ol", "pre", "h1", "h2", "h3", "h4", "h5", "h6", "hr"].map String.toList

def listNames : List (List Char) := ["ul", "ol", "li"].map String.toList

def quoteName : List Char := "blockquote".toList

def paragraphName : List Char := "p".toList

def linkName : List Char := "a".toList

/-- The outermost element around that is no block quote. -/
def host : List (List Char) → Option (List Char)
  | [] => none
  | name :: outer =>
    match host outer with
    | some found => some found
    | none => if name = quoteName then none else some name

theorem host_cons_of_some {name found : List Char} {outer : List (List Char)}
    (inside : host outer = some found) : host (name :: outer) = some found := by
  simp [host, inside]

theorem host_cons_of_none {name : List Char} {outer : List (List Char)}
    (outside : host outer = none) (other : name ≠ quoteName) : host (name :: outer) = some name := by
  simp [host, outside, other]

/-- Whether lines of text and blocks follow one another here. -/
def InFlow (outer : List (List Char)) : Prop := host outer = none

theorem InFlow.quote {outer : List (List Char)} (flows : InFlow outer) :
    InFlow (quoteName :: outer) := by
  have outside : host outer = none := flows
  simp [InFlow, host, outside]

/-- Whether a tag is no link or stands in no link. -/
def LinksApart (outer : List (List Char)) (tag : Tag) : Prop :=
  tag.name = linkName → linkName ∉ outer

/-- An element around keeps links out of links. -/
theorem apart_grows {before after : List (List Char)} (name : List Char)
    (apart : linkName ∈ after → linkName ∈ before) :
    linkName ∈ name :: after → linkName ∈ name :: before := by
  intro member
  rcases List.mem_cons.mp member with rfl | member
  · exact List.mem_cons_self
  · exact List.mem_cons_of_mem _ (apart member)

/-- Which elements may stand where an element of the name `found` is the outermost one around. -/
def FitsHost (found name : List Char) : Prop :=
  name ∈ inlineNames ∨ found ∈ blockNames ∧ name ∈ listNames

/-- Lines and blocks in flow, with tags and characters of some kind. -/
def flow (tags : Tag → Prop) (chars : Char → Prop) : ContentModel where
  tag outer tag :=
    tags tag ∧ '\n' ∉ tag.source ∧ LinksApart outer tag ∧
      match host outer with
      | none => tag.name ∈ inlineNames ∨ tag.name ∈ blockNames ∨
          tag = .start quoteName [] ∨ tag = .stop quoteName
      | some found => FitsHost found tag.name
  char outer c := chars c ∧ (c = '\n' → ∀ found ∈ host outer, found ∈ blockNames)

/-- Paragraphs and blocks, with tags and characters of some kind. -/
def laidOut (tags : Tag → Prop) (chars : Char → Prop) : ContentModel where
  tag outer tag :=
    tags tag ∧ LinksApart outer tag ∧
      match host outer with
      | none => tag.name ∈ blockNames ∨ tag.name = quoteName ∨ tag.name = paragraphName
      | some found => FitsHost found tag.name
  char outer c := chars c ∧ host outer ≠ none ∧ (c = '\n' → host outer = some "pre".toList)

/-- Inside an outermost element that is no block quote one model may permit what another does. -/
theorem Nested.inside {model model' : ContentModel} {found : List Char} {outer : List (List Char)}
    {parts : List Piece} (hosted : host outer = some found)
    (chars : ∀ around c, host around = some found → model.char around c → model'.char around c)
    (tags : ∀ around tag, host around = some found → model.tag around tag → model'.tag around tag)
    (nested : Nested model outer parts) : Nested model' outer parts := by
  refine nested.transport (fun before after => before = after ∧ host after = some found) ?_ ?_ ?_
    ⟨rfl, hosted⟩
  · rintro name before _ ⟨rfl, hosted⟩
    exact ⟨rfl, host_cons_of_some hosted⟩
  · rintro before _ c _ ⟨rfl, hosted⟩ permitted
    exact chars before c hosted permitted
  · rintro before _ tag ⟨rfl, hosted⟩ permitted
    exact tags before tag hosted permitted

variable {tags : Tag → Prop} {chars : Char → Prop} {outer : List (List Char)} {tag : Tag}

theorem flow_tag_of_inline (kind : tags tag) (line : '\n' ∉ tag.source)
    (apart : LinksApart outer tag) (inline : tag.name ∈ inlineNames) :
    (flow tags chars).tag outer tag := by
  refine ⟨kind, line, apart, ?_⟩
  cases host outer with
  | none => exact .inl inline
  | some found => exact .inl inline

theorem flow_tag_of_block (flows : InFlow outer) (kind : tags tag) (line : '\n' ∉ tag.source)
    (apart : LinksApart outer tag) (block : tag.name ∈ blockNames) : (flow tags chars).tag outer tag := by
  refine ⟨kind, line, apart, ?_⟩
  rw [show host outer = none from flows]
  exact .inr (.inl block)

theorem flow_tag_of_list {found : List Char} (inside : host outer = some found)
    (block : found ∈ blockNames) (kind : tags tag) (line : '\n' ∉ tag.source)
    (apart : LinksApart outer tag) (list : tag.name ∈ listNames) : (flow tags chars).tag outer tag := by
  refine ⟨kind, line, apart, ?_⟩
  rw [inside]
  exact .inr ⟨block, list⟩

theorem flow_char_of_ne {c : Char} (kind : chars c) (differs : c ≠ '\n') :
    (flow tags chars).char outer c :=
  ⟨kind, fun same => absurd same differs⟩

end PostMarkup
