import PostMarkup.Proofs.BBCode.Passage

/-! # Rendering replaces pairs

What is read before, between and after the open brackets, and what is written for it, leads from place to
place. So an open bracket may be written as it was, and one of the present element may be replaced
together with a closing bracket. In the end pairs of brackets are replaced in the markup, and nothing
else is changed.
-/

namespace PostMarkup.BBCode

open PostMarkup.BBCode.State

/-- Whether an open bracket is a bracket tag of the table that stands in a place. -/
structure OpenBracket.Stands (table : Table) (there : Place) (opened : OpenBracket) (written : Bracket) :
    Prop where
  element : opened.element = there.element
  free : ∀ name ∈ there.names, name ∉ copiedElements
  opens : written.IsWritten ∧ written.closing = false ∧ table.Defines written opened.definition
  takes : opened.definition.Takes written.parameter
  source : opened.source = written.source
  html : opened.html = opened.definition.openWith written.parameter

/-- Open brackets, the pieces read so far, the text written after the last open bracket, and the place
to which all this leads, where `last` is the last number given. -/
inductive Awaiting (table : Table) : Nat → List OpenBracket → List Piece → List Char → Place → Prop
  | start {last : Nat} {parts : List Piece} {out : List Char} {place : Place} :
      Passage table 0 [] parts out place → Awaiting table last [] parts out place
  | opened {earlier last : Nat} {opened : OpenBracket} {written : Bracket} {others : List OpenBracket}
      {parts rest : List Piece} {out : List Char} {there place : Place} :
      opened.Stands table there written → there.Numbered earlier →
      Awaiting table earlier others parts opened.before there → earlier ≤ last →
      Passage table earlier there rest out place →
      Awaiting table last (opened :: others) (parts ++ (written.source.map .char ++ rest)) out place

namespace Awaiting

variable {table : Table} {last later : Nat} {opened : OpenBracket} {inner others : List OpenBracket}
  {parts rest : List Piece} {out back : List Char} {place second : Place}

theorem extend (awaiting : Awaiting table last others parts out place)
    (passage : Passage table last place rest back second) (order : last ≤ later) :
    Awaiting table later others (parts ++ rest) (out ++ back) second := by
  cases awaiting with
  | start begun => exact .start (begun.trans passage (Nat.zero_le _))
  | opened stands numbered before grown begun =>
    simp only [List.append_assoc]
    exact .opened stands numbered before (Nat.le_trans grown order) (begun.trans passage grown)

/-- Characters of the present element are copied. -/
theorem copy (awaiting : Awaiting table last others parts out place) (text : List Char) :
    Awaiting table last others (parts ++ text.map .char) (out ++ text) place :=
  awaiting.extend (.stay (.chars text)) (Nat.le_refl _)

/-- Open brackets are written as they were. -/
theorem unopen (awaiting : Awaiting table last (inner ++ others) parts out place) :
    Awaiting table last others parts (unopened inner out) place := by
  induction inner generalizing out with
  | nil => exact awaiting
  | cons bracket more ih =>
    apply ih
    cases awaiting with
    | opened stands _ before grown begun =>
      have copied := (before.copy bracket.source).extend begun grown
      rw [stands.source, List.append_assoc] at copied
      show Awaiting table last (more ++ others) _ (bracket.before ++ bracket.source ++ out) place
      rwa [stands.source]

/-- The whole output leads to the present place. -/
theorem output (awaiting : Awaiting table last others parts out place) :
    Passage table 0 [] parts (unopened others out) place := by
  have whole : Awaiting table last (others ++ []) parts out place := by simpa using awaiting
  cases whole.unopen with
  | start begun => exact begun

/-- An open bracket of the present element is replaced together with a closing bracket of its name. -/
theorem close {definition : Definition} {closing : Bracket}
    (awaiting : Awaiting table last (opened :: others) parts out place)
    (written : closing.IsWritten) (closes : closing.closing = true)
    (defined : table.Defines closing definition) (here : opened.label = ⟨place.element, closing.name⟩) :
    Awaiting table last others (parts ++ closing.source.map .char)
      (opened.before ++ opened.html ++ out ++ definition.htmlClose) place := by
  cases awaiting with
  | @opened _ _ _ first _ _ _ _ _ _ stands numbered before grown begun =>
    obtain ⟨element, named⟩ := Label.mk.inj here
    obtain ⟨rfl, inside⟩ := begun.returns numbered (stands.element.symm.trans element)
    have own : opened.definition = definition := by
      have listed := stands.opens.2.2.1
      rw [← stands.opens.2.2.2, named, defined.1] at listed
      exact (Option.some.inj listed).symm
    subst own
    have pairs : table.Pairs opened.definition first closing :=
      ⟨stands.opens, stands.takes, written, closes, defined⟩
    have replaced := before.extend (.stay (.pair stands.free pairs inside .nil)) grown
    rw [← stands.html] at replaced
    simpa using replaced

end Awaiting

/-- Whether a state is that of a reader in a place who has read some pieces. -/
structure Follows (table : Table) (state : State) (place : Place) (parts : List Piece) : Prop where
  numbers : state.elements = place.map Prod.fst
  numbered : place.Numbered state.lastElement
  depth : state.copiedDepth = place.names.countP copiedElements.contains
  awaiting : Awaiting table state.lastElement state.openBrackets parts state.written place

namespace Follows

variable {table : Table} {state next : State} {place : Place} {parts : List Piece} {tag : Tag}
  {bracket : Bracket} {after : List Char}

theorem start : Follows table .start [] [] where
  numbers := rfl
  numbered := .nil
  depth := rfl
  awaiting := .start .start

theorem element (follows : Follows table state place parts) : state.element = place.element := by
  rw [State.element, follows.numbers]
  rfl

theorem copy (follows : Follows table state place parts) (text : List Char) :
    Follows table (state.copy text) place (parts ++ text.map .char) where
  numbers := follows.numbers
  numbered := follows.numbered
  depth := follows.depth
  awaiting := follows.awaiting.copy text

/-- Outside elements whose text is copied brackets may be replaced. -/
theorem free (follows : Follows table state place parts) (outside : state.copiedDepth = 0) :
    ∀ name ∈ place.names, name ∉ copiedElements := by
  rw [follows.depth, List.countP_eq_zero] at outside
  simpa using outside

/-- A tag leads on to a place with the elements that are open after it. -/
theorem afterTag {names : List (List Char)} (follows : Follows table state place parts)
    (step : tag.step? place.names = some names) :
    ∃ second : Place, second.names = names ∧
      Follows table (state.afterTag tag) second (parts ++ [.tag tag]) := by
  have awaiting := follows.awaiting
  rcases tag.step?_cases step with ⟨single, rfl⟩ | ⟨opens, rfl⟩ | ⟨closes, names⟩
  · have known : (tag.selfClosing || voidElements.contains tag.name) = true := by
      simpa [voidElements, voidNames] using single.2
    have same : state.afterTag tag = state.copy tag.source := by
      rw [State.afterTag, single.1, if_neg Bool.false_ne_true, if_pos known]
    rw [same]
    refine ⟨place, rfl, follows.numbers, follows.numbered, follows.depth, ?_⟩
    have extended := awaiting.extend (.stay (.single single .nil)) (Nat.le_refl _)
    rw [List.append_nil] at extended
    exact extended
  · have other : (tag.selfClosing || voidElements.contains tag.name) = false := by
      simpa [voidElements, voidNames] using opens.2
    rw [State.afterTag, opens.1, if_neg Bool.false_ne_true, other, if_neg Bool.false_ne_true]
    refine ⟨(state.lastElement + 1, tag.name) :: place, rfl, congrArg _ follows.numbers,
      follows.numbered.enter tag.name, ?_, ?_⟩
    · show _ = List.countP _ (tag.name :: place.names)
      rw [List.countP_cons, ← follows.depth]
      cases copiedElements.contains tag.name <;> rfl
    · exact awaiting.extend (Passage.start.into opens (Nat.lt_succ_self _)) (Nat.le_succ _)
  · cases place with
    | nil => cases names
    | cons innermost place =>
      obtain ⟨number, name⟩ := innermost
      obtain ⟨rfl, rfl⟩ := List.cons.inj names
      rw [State.afterTag, if_pos closes]
      refine ⟨place, rfl, congrArg List.tail follows.numbers, follows.numbered.leave, ?_, ?_⟩
      · have depth : state.copiedDepth = List.countP _ (tag.name :: Place.names place) := follows.depth
        rw [List.countP_cons] at depth
        rw [depth]
        cases copiedElements.contains tag.name <;> rfl
      · exact awaiting.extend (Passage.start.exit closes) (Nat.le_refl _)

theorem afterBracket (follows : Follows table state place parts) (outside : state.copiedDepth = 0)
    (written : bracket.IsWritten) (step : state.afterBracket table bracket after = .ok next) :
    Follows table next place (parts ++ bracket.source.map .char) := by
  have outcome := bracketStep table state bracket after
  rw [step] at outcome
  cases outcome with
  | unknown => exact follows.copy _
  | refused => exact follows.copy _
  | unmatched => exact follows.copy _
  | @opened definition opening defined takes =>
    refine ⟨follows.numbers, follows.numbered, follows.depth, ?_⟩
    have stands : OpenBracket.Stands table place ⟨definition, state.element, bracket.source,
        definition.openWith bracket.parameter, state.written⟩ bracket :=
      ⟨follows.element, follows.free outside, ⟨written, opening, defined⟩, takes, rfl, rfl⟩
    have extended := Awaiting.opened stands follows.numbered follows.awaiting (Nat.le_refl _) .start
    rw [List.append_nil] at extended
    exact extended
  | closed closing defined whole own differs =>
    have awaiting := follows.awaiting
    rw [whole] at awaiting
    rw [follows.element] at own
    exact ⟨follows.numbers, follows.numbered, follows.depth,
      awaiting.unopen.close written closing defined own⟩

theorem afterToken {token : Token} {rest : List Token} {names : List (List Char)}
    (follows : Follows table state place parts) (accords : Accords state (token :: rest))
    (leads : elementsAfter? place.names ((token :: rest).flatMap Token.pieces) = some names)
    (step : state.afterToken table rest token = .ok next) :
    ∃ second : Place, Follows table next second (parts ++ token.pieces) ∧
      elementsAfter? second.names (rest.flatMap Token.pieces) = some names := by
  cases token with
  | tag tag =>
    cases step
    obtain ⟨_, enters, leads⟩ := Option.bind_eq_some_iff.mp leads
    obtain ⟨second, rfl, follows⟩ := follows.afterTag enters
    exact ⟨second, follows, leads⟩
  | char c =>
    cases step
    exact ⟨place, follows.copy [c], leads⟩
  | bracket element written =>
    obtain ⟨⟨_, outside, isWritten⟩, _⟩ := accords
    refine ⟨place, follows.afterBracket outside isWritten step, ?_⟩
    rw [List.flatMap_cons, Token.pieces, elementsAfter?_chars] at leads
    exact leads

/-- What is written for the rest of the tokens replaces pairs, if the elements around are closed. -/
theorem replaced_of_run {found : List Token} {out : List Char} (follows : Follows table state place parts)
    (accords : Accords state found)
    (leads : elementsAfter? place.names (found.flatMap Token.pieces) = some [])
    (rendered : run table state found = .ok out) :
    Replaced table [] (parts ++ found.flatMap Token.pieces) out := by
  induction found generalizing state place parts with
  | nil =>
    cases rendered
    have outside : place = [] := List.map_eq_nil_iff.mp (Option.some.inj leads)
    subst outside
    rw [List.flatMap_nil, List.append_nil]
    exact (follows.awaiting.output.returns .nil rfl).2
  | cons token rest ih =>
    obtain ⟨next, step, rendered⟩ := run_cons_eq_ok rendered
    obtain ⟨second, later, leads⟩ := follows.afterToken accords leads step
    simpa using ih later (accords.afterToken step) leads rendered

end Follows

/-- Rendering balanced markup replaces pairs of brackets in it, whatever the table is. -/
theorem replaced_of_render {table : Table} {markup out : List Char} (balanced : IsBalanced markup)
    (rendered : render table markup = .ok out) : Replaced table [] (pieces markup) out := by
  rw [render, renderFrom_eq_run] at rendered
  have leads : elementsAfter? [] ((tokens .start markup).flatMap Token.pieces) = some [] := by
    rwa [pieces_tokens]
  have replaced := Follows.start.replaced_of_run (accords_tokens .start markup) leads rendered
  rwa [List.nil_append, pieces_tokens] at replaced

/-- Balanced markup without brackets outside its tags is left as it is. -/
theorem eq_of_render {table : Table} {markup out : List Char} (balanced : IsBalanced markup)
    (clean : .char '[' ∉ pieces markup) (rendered : render table markup = .ok out) : out = markup := by
  rw [(replaced_of_render balanced rendered).eq_sourceOf clean, source_pieces]

/-- Rendering balanced markup with the builtin tags replaces pairs of brackets in it, and the output is
balanced. -/
theorem render_builtin {markup out : List Char} (balanced : IsBalanced markup)
    (rendered : render .builtin markup = .ok out) :
    IsBalanced out ∧ Replaced .builtin [] (pieces markup) out :=
  have replaced := replaced_of_render balanced rendered
  ⟨replaced.isBalanced isSound_builtin keepsQuotes_builtin, replaced⟩

/-- A paragraph with a pair, a bracket in a title and a pair in code. -/
def bracketed : List Char := "<p title=\"[u]\">[u]x<code>[s]y[/s]</code>[/u]</p>".toList

theorem render_builtin_bracketed :
    render .builtin bracketed = .ok "<p title=\"[u]\"><u>x<code>[s]y[/s]</code></u></p>".toList ∧
      IsBalanced bracketed ∧ Replaced .builtin [] (pieces bracketed)
        "<p title=\"[u]\"><u>x<code>[s]y[/s]</code></u></p>".toList := by
  have rendered : render .builtin bracketed =
      .ok "<p title=\"[u]\"><u>x<code>[s]y[/s]</code></u></p>".toList := by decide +kernel
  have balanced : IsBalanced bracketed := by decide +kernel
  exact ⟨rendered, balanced, (render_builtin balanced rendered).2⟩

end PostMarkup.BBCode
