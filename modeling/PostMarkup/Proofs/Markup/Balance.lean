import PostMarkup.Proofs.Markup.TagForm

/-! # Balanced markup

Markup is balanced when its tags open and close elements like brackets. A `<` that starts no tag and a
tag that ends with a slash are allowed, unlike in a fragment. A `<` that starts no tag still starts none
if HTML is put into the text after it, as long as that HTML neither ends the quotes around it nor ends a
tag.
-/

namespace PostMarkup

namespace Tag

/-- Whether a tag is an element on its own, by its name or by a slash before its end. -/
def IsSingle (tag : Tag) : Prop :=
  tag.closing = false ∧ (tag.selfClosing = true ∨ tag.name ∈ voidNames)

/-- The elements that are open after a tag; none if it closes an element that is not the innermost
one. -/
def step? (tag : Tag) (opened : List (List Char)) : Option (List (List Char)) :=
  if tag.closing then
    if opened.head? = some tag.name then some opened.tail else none
  else if tag.selfClosing || voidNames.contains tag.name then some opened
  else some (tag.name :: opened)

variable {tag : Tag} {opened next : List (List Char)}

theorem step?_single (single : tag.IsSingle) : tag.step? opened = some opened := by
  have known : (tag.selfClosing || voidNames.contains tag.name) = true := by
    simpa using single.2
  rw [step?, single.1, if_neg Bool.false_ne_true, if_pos known]

theorem step?_opens (opens : tag.Opens) : tag.step? opened = some (tag.name :: opened) := by
  simp [step?, opens.1, opens.2.1, opens.2.2]

theorem step?_closes (closes : tag.closing = true) : tag.step? (tag.name :: opened) = some opened := by
  simp [step?, closes]

/-- A tag does nothing else to the elements that are open. -/
theorem step?_cases (step : tag.step? opened = some next) :
    tag.IsSingle ∧ next = opened ∨ tag.Opens ∧ next = tag.name :: opened ∨
      tag.closing = true ∧ opened = tag.name :: next := by
  unfold step? at step
  split at step
  · rename_i closes
    refine .inr (.inr ⟨closes, ?_⟩)
    split at step
    · rename_i innermost
      obtain ⟨around, rfl⟩ := List.head?_eq_some_iff.mp innermost
      cases step
      rfl
    · cases step
  · rename_i notCloses
    have notCloses : tag.closing = false := by simpa using notCloses
    split at step
    · rename_i known
      cases step
      exact .inl ⟨⟨notCloses, by simpa using known⟩, rfl⟩
    · rename_i other
      cases step
      simp only [Bool.or_eq_true, List.contains_iff_mem, not_or, Bool.not_eq_true] at other
      exact .inr (.inl ⟨⟨notCloses, other.1, other.2⟩, rfl⟩)

end Tag

/-- The elements that are open after some pieces; none if a tag closes an element that is not the
innermost one. -/
def elementsAfter? (opened : List (List Char)) : List Piece → Option (List (List Char))
  | [] => some opened
  | .char _ :: rest => elementsAfter? opened rest
  | .tag tag :: rest => (tag.step? opened).bind fun next => elementsAfter? next rest

theorem elementsAfter?_chars (opened : List (List Char)) (text : List Char) (rest : List Piece) :
    elementsAfter? opened (text.map .char ++ rest) = elementsAfter? opened rest := by
  induction text with
  | nil => rfl
  | cons c others ih => exact ih

/-- Whether the tags of markup open and close elements like brackets. -/
def IsBalanced (markup : List Char) : Prop := elementsAfter? [] (pieces markup) = some []

instance (markup : List Char) : Decidable (IsBalanced markup) :=
  inferInstanceAs (Decidable (elementsAfter? [] (pieces markup) = some []))

/-- Whether pieces are cut out of their characters again. -/
def IsCut : List Piece → Prop
  | [] => True
  | .tag tag :: rest => tag.IsWritten ∧ IsCut rest
  | .char c :: rest => Tag.read? (c :: sourceOf rest) = none ∧ IsCut rest

theorem isCut_pieces (text : List Char) : IsCut (pieces text) := by
  fun_induction pieces text with
  | case1 => trivial
  | case2 c rest tag found ih =>
    have written : tag.IsWritten := by simpa [Tag.IsWritten] using Tag.read?_append found []
    exact ⟨written, ih⟩
  | case3 c rest unread ih => exact ⟨by rwa [source_pieces], ih⟩

theorem IsCut.of_append {left right : List Piece} (cut : IsCut (left ++ right)) : IsCut right := by
  induction left with
  | nil => exact cut
  | cons part rest ih =>
    cases part with
    | tag _ => exact ih cut.2
    | char _ => exact ih cut.2

theorem pieces_of_unread {c : Char} {rest : List Char} (unread : Tag.read? (c :: rest) = none) :
    pieces (c :: rest) = .char c :: pieces rest := by
  rw [pieces, unread]

/-- The marks around the value of an attribute. -/
def quoteMarks : List Char := ['"', '\'']

/-- Whether text stands in no quotes or in quotes with one of the marks. -/
def IsQuote (quote : Option Char) : Prop := ∀ mark ∈ quote, mark ∈ quoteMarks

namespace IsQuote

variable {quote : Option Char}

theorem none : IsQuote none := by simp [IsQuote]

/-- Quotes go on or are closed. -/
theorem goOn {mark : Char} (quoted : IsQuote (some mark)) (c : Char) :
    IsQuote (if c = mark then Option.none else some mark) := by
  split
  · exact none
  · exact quoted

/-- Quotes may be opened. -/
theorem begin (c : Char) : IsQuote (if c = '"' ∨ c = '\'' then some c else Option.none) := by
  split
  · rename_i isMark
    simpa [IsQuote, quoteMarks] using isMark
  · exact none

end IsQuote

/-- Whether HTML may replace a text anywhere: it starts a tag, and inside quotes it leaves them open. -/
structure IsSplice (source html : List Char) : Prop where
  bracket : source.head? = some '['
  unquoted : ∀ mark ∈ quoteMarks, mark ∉ source
  start : html.head? = some '<'
  closed : ∀ mark ∈ quoteMarks, Tag.quotesClosed (some mark) (html ++ [mark]) = true

/-- A text, and the same with HTML put into it. -/
inductive Spliced : List Char → List Char → Prop
  | nil : Spliced [] []
  | char {c : Char} {rest out : List Char} : Spliced rest out → Spliced (c :: rest) (c :: out)
  | html {source html rest out : List Char} : IsSplice source html → Spliced rest out →
      Spliced (source ++ rest) (html ++ out)

variable {mark : Char} {quote : Option Char} {source html rest out : List Char}

/-- Quotes go on over a text without their mark. -/
theorem Tag.body?_value (clean : mark ∉ source) (rest : List Char) :
    body? (some mark) (source ++ rest) = (body? (some mark) rest).map (source ++ ·) := by
  induction source with
  | nil => simp
  | cons c others ih =>
    simp only [List.mem_cons, not_or] at clean
    rw [List.cons_append, body?, if_neg (Ne.symm clean.1), ih clean.2, Option.map_map]
    rfl

/-- Quotes go on over HTML that leaves them open. -/
theorem Tag.body?_eq_none_of_quotesClosed (quoted : mark ∈ quoteMarks)
    (closed : quotesClosed quote (html ++ [mark]) = true) (unread : body? (some mark) rest = none) :
    body? quote (html ++ rest) = none := by
  induction html generalizing quote with
  | nil =>
    cases quote with
    | none =>
      have opens : ∀ mark ∈ quoteMarks, quotesClosed none [mark] = false := by decide
      rw [List.nil_append, opens mark quoted] at closed
      cases closed
    | some other =>
      have same : mark = other := by
        by_cases same : mark = other
        · exact same
        · simp [quotesClosed, same] at closed
      rwa [List.nil_append, ← same]
  | cons c others ih =>
    cases quote with
    | none =>
      simp only [List.cons_append, quotesClosed, Bool.and_eq_true, decide_eq_true_eq] at closed
      obtain ⟨⟨notLess, notGreater⟩, closed⟩ := closed
      simp [body?, notLess, notGreater, ih closed]
    | some other =>
      rw [List.cons_append, quotesClosed] at closed
      simp [body?, ih closed]

namespace Spliced

/-- The rest of a tag that does not end does not end after HTML is put into it. -/
theorem body?_eq_none (spliced : Spliced rest out) (known : IsQuote quote)
    (unread : Tag.body? quote rest = none) : Tag.body? quote out = none := by
  induction spliced generalizing quote with
  | nil => exact unread
  | @char c rest out _ ih =>
    cases quote with
    | none =>
      by_cases greater : c = '>'
      · simp [Tag.body?, greater] at unread
      · by_cases less : c = '<'
        · simp [Tag.body?, less]
        · simp only [Tag.body?, greater, less, if_false, Option.map_eq_none_iff] at unread ⊢
          exact ih (.begin c) unread
    | some mark =>
      simp only [Tag.body?, Option.map_eq_none_iff] at unread ⊢
      exact ih (known.goOn c) unread
  | @html source html rest out splice _ ih =>
    cases quote with
    | none =>
      obtain ⟨inner, rfl⟩ := List.head?_eq_some_iff.mp splice.start
      simp [Tag.body?]
    | some mark =>
      have quoted := known mark rfl
      rw [Tag.body?_value (splice.unquoted mark quoted), Option.map_eq_none_iff] at unread
      exact Tag.body?_eq_none_of_quotesClosed quoted (splice.closed mark quoted) (ih known unread)

/-- Text on both sides. -/
theorem append (front : List Char) (spliced : Spliced rest out) :
    Spliced (front ++ rest) (front ++ out) := by
  induction front with
  | nil => exact spliced
  | cons c others ih => exact .char ih

theorem takeWhile_name (spliced : Spliced rest out) :
    out.takeWhile Char.isAlphanum = rest.takeWhile Char.isAlphanum ∧
      Spliced (rest.dropWhile Char.isAlphanum) (out.dropWhile Char.isAlphanum) := by
  induction spliced with
  | nil => exact ⟨rfl, .nil⟩
  | @char c rest out spliced ih =>
    by_cases word : c.isAlphanum = true
    · simpa [word] using ih
    · simpa [word] using Spliced.char spliced
  | @html source html rest out splice spliced ih =>
    have whole := Spliced.html splice spliced
    obtain ⟨before, rfl⟩ := List.head?_eq_some_iff.mp splice.bracket
    obtain ⟨after, rfl⟩ := List.head?_eq_some_iff.mp splice.start
    have bracket : '['.isAlphanum = false := by decide
    have less : '<'.isAlphanum = false := by decide
    simpa [bracket, less] using whole

theorem endsName (spliced : Spliced rest out) (ends : out.head?.any Tag.endsName = true) :
    rest.head?.any Tag.endsName = true := by
  cases spliced with
  | nil => exact ends
  | char => exact ends
  | html splice =>
    obtain ⟨after, rfl⟩ := List.head?_eq_some_iff.mp splice.start
    exact absurd ends (by simp [Tag.endsName, Text.isBlank])

theorem readName?_eq_none {opening : List Char} {closing : Bool} (spliced : Spliced rest out)
    (unread : Tag.readName? opening closing rest = none) :
    Tag.readName? opening closing out = none := by
  cases found : Tag.readName? opening closing out with
  | none => rfl
  | some tag =>
    obtain ⟨name, body, named, letter, ends, read, _⟩ := Tag.readName?_eq_some_iff.mp found
    obtain ⟨same, later⟩ := spliced.takeWhile_name
    cases read' : Tag.body? none (rest.dropWhile Char.isAlphanum) with
    | none => simp [later.body?_eq_none .none read'] at read
    | some body' =>
      rw [Tag.readName?_eq_some_iff.mpr
        ⟨name, body', same.symm.trans named, letter, later.endsName ends, read', rfl⟩] at unread
      cases unread

/-- A `<` that starts no tag starts none after HTML is put into the text that follows it. -/
theorem read?_eq_none (spliced : Spliced rest out) (unread : Tag.read? ('<' :: rest) = none) :
    Tag.read? ('<' :: out) = none := by
  cases spliced with
  | nil => exact unread
  | @char c rest out spliced =>
    by_cases slash : c = '/'
    · subst slash
      exact spliced.readName?_eq_none unread
    · rw [Tag.read?_less slash] at unread ⊢
      exact (Spliced.char spliced).readName?_eq_none unread
  | html splice =>
    obtain ⟨after, rfl⟩ := List.head?_eq_some_iff.mp splice.start
    have word : '<'.isAlphanum = false := by decide
    simp [Tag.read?, Tag.readName?, word]

end Spliced

end PostMarkup
