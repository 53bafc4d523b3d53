import PostMarkup.Proofs.BBCode.Step
import PostMarkup.Proofs.Markup.Balance

/-! # Markup with pairs of brackets replaced

Pairs of brackets are replaced in markup by the HTML of their definitions, and everything else is
copied. The pairs are nested in each other and in the elements of the markup, and none stands in
preformatted text or code. The result of replacing pairs in balanced markup is balanced.
-/

namespace PostMarkup.BBCode

open PostMarkup.Text PostMarkup.BBCode.State

/-- Whether two bracket tags are the ends of a pair that a definition replaces. -/
structure Table.Pairs (table : Table) (definition : Definition) (first last : Bracket) : Prop where
  opens : first.IsWritten ∧ first.closing = false ∧ table.Defines first definition
  takes : definition.Takes first.parameter
  closes : last.IsWritten ∧ last.closing = true ∧ table.Defines last definition

/-- Pieces inside the elements `outer`, and the text that is written for them when some pairs of
brackets are replaced. -/
inductive Replaced (table : Table) : List (List Char) → List Piece → List Char → Prop
  | nil {outer : List (List Char)} : Replaced table outer [] []
  | char {outer : List (List Char)} {c : Char} {rest : List Piece} {out : List Char} :
      Replaced table outer rest out → Replaced table outer (.char c :: rest) (c :: out)
  | single {outer : List (List Char)} {tag : Tag} {rest : List Piece} {out : List Char} :
      tag.IsSingle → Replaced table outer rest out →
      Replaced table outer (.tag tag :: rest) (tag.source ++ out)
  | element {outer : List (List Char)} {first last : Tag} {body rest : List Piece}
      {content out : List Char} :
      first.Opens → last.closing = true → last.name = first.name →
      Replaced table (first.name :: outer) body content → Replaced table outer rest out →
      Replaced table outer (.tag first :: (body ++ .tag last :: rest))
        (first.source ++ (content ++ (last.source ++ out)))
  | pair {outer : List (List Char)} {definition : Definition} {first last : Bracket}
      {body rest : List Piece} {content out : List Char} :
      (∀ name ∈ outer, name ∉ copiedElements) → table.Pairs definition first last →
      Replaced table outer body content → Replaced table outer rest out →
      Replaced table outer (first.source.map .char ++ (body ++ (last.source.map .char ++ rest)))
        (definition.openWith first.parameter ++ (content ++ (definition.htmlClose ++ out)))

variable {table : Table} {outer opened : List (List Char)} {left right parts later : List Piece}
  {out back content : List Char} {definition : Definition} {first last : Bracket}

namespace Replaced

/-- Pieces without brackets are copied. -/
theorem eq_sourceOf (replaced : Replaced table outer parts out) (clean : .char '[' ∉ parts) : out = sourceOf parts := by
  induction replaced with
  | nil => rfl
  | char _ ih =>
    rw [ih fun member => clean (List.mem_cons_of_mem _ member)]
    rfl
  | single _ _ ih =>
    rw [ih fun member => clean (List.mem_cons_of_mem _ member)]
    rfl
  | element _ _ _ _ _ ihBody ihRest =>
    simp only [List.mem_cons, List.mem_append, not_or] at clean
    rw [ihBody clean.2.1, ihRest clean.2.2.2]
    simp [Piece.source]
  | pair _ pairs _ _ _ _ =>
    obtain ⟨rest, source⟩ := List.head?_eq_some_iff.mp pairs.opens.1.head?
    exact absurd (List.mem_append_left _ (List.mem_map_of_mem (source ▸ List.mem_cons_self))) clean

theorem append (before : Replaced table outer left out) (after : Replaced table outer right back) :
    Replaced table outer (left ++ right) (out ++ back) := by
  induction before with
  | nil => exact after
  | char _ ih => exact .char (ih after)
  | single single _ ih =>
    rw [List.append_assoc]
    exact .single single (ih after)
  | element opens closes same body _ _ ih =>
    simp only [List.cons_append, List.append_assoc]
    exact .element opens closes same body (ih after)
  | pair free pairs body _ _ ih =>
    simp only [List.append_assoc]
    exact .pair free pairs body (ih after)

/-- Characters are copied. -/
theorem chars (text : List Char) : Replaced table outer (text.map .char) text := by
  induction text with
  | nil => exact .nil
  | cons c rest ih => exact .char ih

end Replaced

/-- Characters that open or close quotes or tags. -/
def delimiters : List Char := ['"', '\'', '<', '>']

/-- Whether the HTML of a definition leaves quotes around it open, and its pattern accepts nothing that
could close them. -/
structure Definition.KeepsQuotes (definition : Definition) : Prop where
  parameter : ∀ parameter ∈ definition.parameter, ∀ c ∈ delimiters,
    c ∉ parameter.token ∧ parameter.pattern.avoids c = true
  opening : ∀ mark ∈ quoteMarks, Tag.quotesClosed (some mark) (definition.htmlOpen ++ [mark]) = true
  closing : ∀ mark ∈ quoteMarks, Tag.quotesClosed (some mark) (definition.htmlClose ++ [mark]) = true

def Table.KeepsQuotes (table : Table) : Prop :=
  ∀ name definition, table.get? name = some definition → definition.KeepsQuotes

section Quotes

variable {quote : Option Char} {value : List Char}

/-- Text without delimiters does not matter for quotes. -/
theorem quotesClosed_insert (plain : ∀ c ∈ delimiters, c ∉ value) (known : IsQuote quote)
    (rest : List Char) : Tag.quotesClosed quote (value ++ rest) = Tag.quotesClosed quote rest := by
  induction value with
  | nil => rfl
  | cons c others ih =>
    have other : c ∉ delimiters := fun member => plain c member List.mem_cons_self
    have later := ih fun d member inside => plain d member (List.mem_cons_of_mem _ inside)
    rw [List.cons_append]
    cases quote with
    | none =>
      simp only [delimiters, List.mem_cons, List.not_mem_nil, or_false, not_or] at other
      simp [Tag.quotesClosed, other, later]
    | some mark =>
      have differs : c ≠ mark := by
        rintro rfl
        have marks : ∀ mark ∈ quoteMarks, mark ∈ delimiters := by decide
        exact other (marks c (known c rfl))
      rw [Tag.quotesClosed, if_neg differs, later]

/-- A word and what is put in its place do not matter for quotes if they hold no delimiter. -/
theorem quotesClosed_replaceAll {word : List Char} (plain : ∀ c ∈ delimiters, c ∉ word)
    (plain' : ∀ c ∈ delimiters, c ∉ value) (known : IsQuote quote) (text rest : List Char) :
    Tag.quotesClosed quote (replaceAll word value text ++ rest) = Tag.quotesClosed quote (text ++ rest) := by
  fun_induction replaceAll word value text generalizing quote with
  | case1 => rfl
  | case2 c others found ih =>
    obtain ⟨first, more, rfl⟩ := List.exists_cons_of_ne_nil (by simpa using found.1 : word ≠ [])
    obtain ⟨after, whole⟩ := List.isPrefixOf_iff_prefix.mp found.2
    rw [List.cons_append] at whole
    obtain ⟨rfl, rfl⟩ := List.cons.inj whole
    have kept : (more ++ after).drop ((first :: more).length - 1) = after := by simp
    rw [kept] at ih ⊢
    rw [List.append_assoc, quotesClosed_insert plain' known, ih known, ← List.cons_append,
      List.append_assoc, quotesClosed_insert plain known]
  | case3 c others found ih =>
    rw [List.cons_append, List.cons_append]
    cases quote with
    | none => rw [Tag.quotesClosed, Tag.quotesClosed, ih (.begin c)]
    | some mark => rw [Tag.quotesClosed, Tag.quotesClosed, ih (known.goOn c)]

/-- An accepted parameter does not matter for the quotes around a bracket. -/
theorem Definition.KeepsQuotes.openWith (keeps : definition.KeepsQuotes) {value : Option (List Char)}
    (takes : definition.Takes value) {mark : Char} (quoted : mark ∈ quoteMarks) :
    Tag.quotesClosed (some mark) (definition.openWith value ++ [mark]) = true := by
  have bare := keeps.opening mark quoted
  unfold Definition.openWith
  unfold Definition.Takes at takes
  cases given : definition.parameter with
  | none => exact bare
  | some parameter =>
    cases value with
    | none => simp [given] at takes
    | some value =>
      simp only [given] at takes ⊢
      have facts := keeps.parameter parameter (by simp [given])
      have percent : '%' ∉ delimiters := by decide
      have plain : ∀ c ∈ delimiters, c ∉ '%' :: parameter.token ++ ['%'] := by
        intro c member inside
        simp only [List.cons_append, List.mem_cons, List.mem_append, List.not_mem_nil, or_false] at inside
        rcases inside with rfl | inside | rfl
        · exact percent member
        · exact (facts c member).1 inside
        · exact percent member
      have plain' : ∀ c ∈ delimiters, c ∉ value := fun c member =>
        Pattern.not_mem_of_accepts (facts c member).2 takes
      rwa [quotesClosed_replaceAll plain plain' fun other same => Option.some.inj same ▸ quoted]

end Quotes

theorem keepsQuotes_builtin : Table.builtin.KeepsQuotes := by
  have parameters : ∀ definition ∈ Table.builtin.definitions, ∀ parameter ∈ definition.parameter,
      ∀ c ∈ delimiters, c ∉ parameter.token ∧ parameter.pattern.avoids c = true := by decide +kernel
  have openings : ∀ definition ∈ Table.builtin.definitions, ∀ mark ∈ quoteMarks,
      Tag.quotesClosed (some mark) (definition.htmlOpen ++ [mark]) = true := by
    simp only [Table.builtin, Definition.make, List.forall_mem_cons, slanted_opening]
    refine ⟨?_, ?_, ?_⟩
    · decide +kernel
    · decide +kernel
    · decide +kernel
  have closings : ∀ definition ∈ Table.builtin.definitions, ∀ mark ∈ quoteMarks,
      Tag.quotesClosed (some mark) (definition.htmlClose ++ [mark]) = true := by decide +kernel
  intro name definition found
  have member := List.mem_of_find?_eq_some found
  exact ⟨parameters definition member, openings definition member, closings definition member⟩

/-- What replaces the ends of a pair are the tags of an element that is not void. -/
theorem Encloses.tags {opening closing : List Char} (encloses : Encloses opening closing) :
    ∃ first last : Tag, first.IsWritten ∧ last.IsWritten ∧ first.Opens ∧ last.closing = true ∧
      last.name = first.name ∧ opening = first.source ∧ closing = last.source := by
  obtain ⟨name, attributes, known, given, rfl, rfl⟩ := encloses
  have facts : ∀ name ∈ bracketNames, Tag.isName name = true ∧ name ∉ voidNames := by decide
  obtain ⟨named, normal⟩ := facts name known
  have clean : ∀ entry ∈ attributes, entry.IsClean := fun entry member => (given entry member).1.isClean
  exact ⟨_, _, Tag.opening_isWritten named clean, Tag.stop_isWritten named, Tag.opening_opens normal clean,
    rfl, rfl, rfl, rfl⟩

/-- A bracket tag holds no quotes if its parameter holds none. -/
theorem Bracket.IsWritten.unquoted (written : first.IsWritten)
    (plain : ∀ value, first.parameter = some value → ∀ mark ∈ quoteMarks, mark ∉ value) :
    ∀ mark ∈ quoteMarks, mark ∉ first.source := by
  have marks : ∀ mark ∈ quoteMarks, mark.isAlphanum = false ∧ mark ∉ "[/=]".toList := by decide
  intro mark quoted member
  rcases written.mem_source member with word | other | ⟨value, given, inside⟩
  · simp [(marks mark quoted).1] at word
  · exact (marks mark quoted).2 other
  · exact plain value given mark quoted inside

namespace Table.Pairs

theorem isSplice (sound : table.IsSound) (keeps : table.KeepsQuotes)
    (pairs : table.Pairs definition first last) :
    IsSplice first.source (definition.openWith first.parameter) ∧
      IsSplice last.source definition.htmlClose := by
  obtain ⟨written, opening, listed, _⟩ := pairs.opens
  obtain ⟨written', closing, _⟩ := pairs.closes
  have quotes := keeps _ _ listed
  obtain ⟨tag, tag', isTag, isTag', _, _, _, html, html'⟩ := (sound _ _ listed _ pairs.takes).tags
  obtain ⟨inner, source⟩ := isTag.eq_cons
  obtain ⟨inner', source'⟩ := isTag'.eq_cons
  have plain (value : List Char) (given : first.parameter = some value) :
      ∀ mark ∈ quoteMarks, mark ∉ value := by
    have marks : ∀ mark ∈ quoteMarks, mark ∈ delimiters := by decide
    intro mark quoted
    have takes := pairs.takes
    rw [given] at takes
    cases taken : definition.parameter with
    | none => simp [Definition.Takes, taken] at takes
    | some parameter =>
      have avoided := (quotes.parameter parameter (by simp [taken]) mark (marks mark quoted)).2
      exact Pattern.not_mem_of_accepts avoided (by simpa [Definition.Takes, taken] using takes)
  refine ⟨⟨written.head?, written.unquoted plain, by rw [html, source]; rfl,
      fun mark quoted => quotes.openWith pairs.takes quoted⟩,
    ⟨written'.head?, written'.unquoted ?_, by rw [html', source']; rfl, quotes.closing⟩⟩
  intro value given
  rw [(written'.of_closing closing).1] at given
  cases given

end Table.Pairs

namespace Replaced

/-- Replacing pairs puts HTML into the text. -/
theorem spliced (sound : table.IsSound) (keeps : table.KeepsQuotes) (replaced : Replaced table outer parts out)
    {text : List Char} (after : Spliced text back) : Spliced (sourceOf parts ++ text) (out ++ back) := by
  induction replaced generalizing text back with
  | nil => exact after
  | char _ ih => exact .char (ih after)
  | single _ _ ih =>
    simp only [sourceOf_cons, Piece.source, List.append_assoc]
    exact (ih after).append _
  | element _ _ _ _ _ ihBody ihRest =>
    simp only [sourceOf_cons, sourceOf_append, Piece.source, List.append_assoc]
    exact (ihBody ((ihRest after).append _)).append _
  | pair _ pairs _ _ ihBody ihRest =>
    obtain ⟨opens, closes⟩ := pairs.isSplice sound keeps
    simp only [sourceOf_append, sourceOf_map_char, List.append_assoc]
    exact .html opens (ihBody (.html closes (ihRest after)))

/-- All elements that are opened in the text are closed in it. -/
theorem elementsAfter?_eq (sound : table.IsSound) (keeps : table.KeepsQuotes)
    (replaced : Replaced table outer parts out) (cut : IsCut (parts ++ later))
    (after : Spliced (sourceOf later) back) (opened : List (List Char)) :
    elementsAfter? opened (pieces (out ++ back)) = elementsAfter? opened (pieces back) := by
  induction replaced generalizing later back opened with
  | nil => rfl
  | @char _ c rest out replaced ih =>
    obtain ⟨unread, cut⟩ := cut
    have unread' : Tag.read? (c :: (out ++ back)) = none := by
      by_cases less : c = '<'
      · subst less
        have spliced := replaced.spliced sound keeps after
        rw [← sourceOf_append] at spliced
        exact spliced.read?_eq_none unread
      · exact Tag.read?_of_ne less _
    rw [List.cons_append, pieces_of_unread unread']
    exact ih cut after opened
  | single single _ ih =>
    obtain ⟨written, cut⟩ := cut
    rw [List.append_assoc, pieces_of_isWritten written, elementsAfter?, Tag.step?_single single]
    exact ih cut after opened
  | @element _ first last body rest content out opens closes same _ replaced ihBody ihRest =>
    obtain ⟨written, cut⟩ := cut
    have cut : IsCut (body ++ .tag last :: (rest ++ later)) := by simpa using cut
    have written' := cut.of_append.1
    have following : Spliced (sourceOf (.tag last :: (rest ++ later))) (last.source ++ (out ++ back)) := by
      rw [sourceOf_cons, sourceOf_append]
      exact (replaced.spliced sound keeps after).append _
    simp only [List.append_assoc]
    rw [pieces_of_isWritten written, elementsAfter?, Tag.step?_opens opens, Option.bind_some,
      ihBody cut following, pieces_of_isWritten written', elementsAfter?, ← same, Tag.step?_closes closes]
    exact ihRest cut.of_append.2 after opened
  | @pair _ definition first last body rest content out _ pairs _ replaced ihBody ihRest =>
    obtain ⟨_, _, listed, _⟩ := pairs.opens
    obtain ⟨tag, tag', written, written', begins, ends, same, html, html'⟩ :=
      (sound _ _ listed _ pairs.takes).tags
    have cut : IsCut (first.source.map .char ++ (body ++ (last.source.map .char ++ (rest ++ later)))) := by
      simpa using cut
    have following : Spliced (sourceOf (last.source.map .char ++ (rest ++ later)))
        (definition.htmlClose ++ (out ++ back)) := by
      rw [sourceOf_append, sourceOf_map_char, sourceOf_append]
      exact .html (pairs.isSplice sound keeps).2 (replaced.spliced sound keeps after)
    simp only [List.append_assoc]
    rw [html, pieces_of_isWritten written, elementsAfter?, Tag.step?_opens begins, Option.bind_some,
      ihBody cut.of_append following, html', pieces_of_isWritten written', elementsAfter?, ← same,
      Tag.step?_closes ends]
    exact ihRest cut.of_append.of_append.of_append after opened

/-- Markup in which pairs are replaced is balanced. -/
theorem isBalanced (sound : table.IsSound) (keeps : table.KeepsQuotes) {markup : List Char}
    (replaced : Replaced table [] (pieces markup) out) : IsBalanced out := by
  have cut : IsCut (pieces markup ++ []) := by simpa using isCut_pieces markup
  have same := replaced.elementsAfter?_eq sound keeps cut .nil []
  rw [List.append_nil] at same
  rw [IsBalanced, same, pieces_nil, elementsAfter?]

end Replaced

end PostMarkup.BBCode
