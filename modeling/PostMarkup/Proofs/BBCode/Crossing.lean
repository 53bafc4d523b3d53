import PostMarkup.Proofs.BBCode.Opened

/-! # Crossing pairs of brackets

A closing bracket that ends a pair is an error if a bracket inside the pair is still open and the
rest of the text holds a closing bracket of its name, wherever in the text. Such a closing bracket
need not belong to the open one: it may stand in another element, in an attribute or in code, or
close a bracket that comes later.
-/

namespace PostMarkup.BBCode

open PostMarkup.BBCode.State

/-- Whether a pair of `outer` ends before the tokens `rest`, and the last bracket of `inner` inside
it is open at that end. -/
def Straddles (table : Table) (found : List Token) (outer inner : Label) (rest : List Token) : Prop :=
  ∃ front first between second inside last,
    found = front ++ first :: (between ++ second :: (inside ++ last :: rest)) ∧
      first.opens table outer = true ∧ second.opens table inner = true ∧
      last.closes table outer = true ∧ Paired table outer (between ++ second :: inside) ∧
      Paired table inner inside

/-- Whether a pair of a name ends inside a pair of another one that begins inside it, both in one
element. -/
def Crosses (table : Table) (found : List Token) (tag inner : List Char) : Prop :=
  ∃ element front first between second inside close beyond last rest,
    found = front ++ first :: (between ++ second :: (inside ++ close :: (beyond ++ last :: rest))) ∧
      first.opens table ⟨element, tag⟩ = true ∧ second.opens table ⟨element, inner⟩ = true ∧
      close.closes table ⟨element, tag⟩ = true ∧ last.closes table ⟨element, inner⟩ = true ∧
      Paired table ⟨element, tag⟩ (between ++ second :: inside) ∧
      Paired table ⟨element, inner⟩ (inside ++ close :: beyond)

variable {table : Table} {inner others : List OpenBracket} {found rest : List Token} {state : State}
  {label : Label}

namespace Tracks

/-- The last one of some brackets with a label. -/
theorem exists_last {brackets : List OpenBracket} {label : Label}
    (known : ∃ bracket ∈ brackets, bracket.label = label) :
    ∃ above bracket below, brackets = above ++ bracket :: below ∧ bracket.label = label ∧
      ∀ later ∈ above, later.label ≠ label := by
  cases search : brackets.find? (fun bracket => bracket.label = label) with
  | none =>
    obtain ⟨bracket, member, labelled⟩ := known
    exact absurd (List.find?_eq_none.mp search bracket member) (by simp [labelled])
  | some bracket =>
    obtain ⟨labelled, above, below, whole, others⟩ := List.find?_eq_some_iff_append.mp search
    exact ⟨above, bracket, below, whole, by simpa using labelled, by simpa using others⟩

/-- An error reports a bracket that is open at the end of a pair around it. -/
theorem straddles {written : Bracket} {opened other : OpenBracket}
    (tracks : Tracks table state found (.bracket state.element written :: rest))
    (isWritten : written.IsWritten) (closing : written.closing = true)
    (closes : (Token.bracket state.element written).closes table ⟨state.element, written.name⟩ = true)
    (whole : state.openBrackets = inner ++ opened :: others)
    (own : opened.label = ⟨state.element, written.name⟩)
    (differs : ∀ later ∈ inner, later.label ≠ ⟨state.element, written.name⟩)
    (member : other ∈ inner) (here : other.element = state.element)
    (later : closesIn other.definition.name (textOf rest) = true) :
    Straddles table (found ++ .bracket state.element written :: rest) ⟨state.element, written.name⟩
      ⟨state.element, other.definition.name⟩ rest := by
  have labelled : other.label = ⟨state.element, other.definition.name⟩ := by
    rw [OpenBracket.label, here]
  obtain ⟨above, second, below, rfl, same, distinct⟩ := exists_last ⟨other, member, labelled⟩
  have mayClose : state.MayClose (.bracket state.element written :: rest) opened.label :=
    own ▸ .here (closesIn_self isWritten closing rest)
  have mayClose' : state.MayClose (.bracket state.element written :: rest) second.label :=
    same ▸ .here (closesIn_cons later _)
  have tracked := tracks.opened
  rw [whole, List.append_assoc] at tracked
  obtain ⟨_, second', inside, rfl, before, opens', _, paired'⟩ := tracked.split
  obtain ⟨front, first, between, rfl, _, opens, _, paired⟩ := before.split
  have apart (later : OpenBracket) (inside : later ∈ above) : later.label ≠ opened.label := by
    rw [own]
    exact differs later (List.mem_append_left _ inside)
  have apart' (later : OpenBracket) (inside : later ∈ second :: below) : later.label ≠ opened.label := by
    rw [own]
    exact differs later (List.mem_append_right _ inside)
  refine ⟨front, first, between, second', inside, _, by simp, own ▸ opens, same ▸ opens', closes, ?_, ?_⟩
  · rw [← own]
    exact (paired opened List.mem_cons_self mayClose fun later member =>
      apart' later (List.mem_cons_of_mem _ member)).append
        (.cons (Token.quiet_of_opens opens' (apart' second List.mem_cons_self))
          (paired' opened (by simp) mayClose apart))
  · rw [← same]
    exact paired' second List.mem_cons_self mayClose' (by rwa [same])

/-- A bracket that is open among the tokens is kept. -/
theorem exists_open {front inside : List Token} {first : Token}
    (tracks : Tracks table state (front ++ first :: inside) rest)
    (opens : first.opens table label = true) (paired : Paired table label inside)
    (mayClose : state.MayClose rest label) : ∃ bracket ∈ state.openBrackets, bracket.label = label := by
  have counted := tracks.counted label mayClose
  rw [paired.openAfter_opens opens] at counted
  have positive : 0 < state.openBrackets.countP fun bracket => bracket.label = label := by omega
  simpa using List.countP_pos_iff.mp positive

/-- A bracket that is open inside a pair was opened after the one that the pair begins with. -/
theorem exists_inside {opened : OpenBracket} {front between inside : List Token} {first second : Token}
    {label' : Label} (tracks : Tracks table state (front ++ first :: (between ++ second :: inside)) rest)
    (opens : first.opens table label = true) (opens' : second.opens table label' = true)
    (paired : Paired table label (between ++ second :: inside)) (paired' : Paired table label' inside)
    (mayClose : state.MayClose rest label) (mayClose' : state.MayClose rest label')
    (whole : state.openBrackets = inner ++ opened :: others) (own : opened.label = label)
    (differs : ∀ later ∈ inner, later.label ≠ label) : ∃ other ∈ inner, other.label = label' := by
  by_cases known : ∃ other ∈ inner, other.label = label'
  · exact known
  · exfalso
    have absent : ∀ later ∈ inner, later.label ≠ label' := by simpa using known
    have distinct : label ≠ label' := by
      rintro rfl
      simp [paired.not_opens paired'] at opens'
    have shape : front ++ first :: (between ++ second :: inside) =
        (front ++ first :: between) ++ second :: inside := by simp
    -- The bracket is open, so it would stand below the one that begins the pair.
    have below : ∃ other ∈ others, other.label = label' := by
      rw [shape] at tracks
      obtain ⟨other, member, same⟩ := tracks.exists_open opens' paired' mayClose'
      rw [whole, List.mem_append, List.mem_cons] at member
      rcases member with above | rfl | below
      · exact absurd same (absent other above)
      · exact absurd (own.symm.trans same) distinct
      · exact ⟨other, below, same⟩
    obtain ⟨above, lower, beneath, rfl, same, apart⟩ := exists_last below
    have tracked := tracks.opened
    rw [whole] at tracked
    obtain ⟨front', first', inside', split, before, begun, _, tail⟩ := tracked.split
    rw [own] at begun
    have content := tail opened List.mem_cons_self (own ▸ mayClose) (own ▸ differs)
    rw [own] at content
    obtain ⟨rfl, rfl, rfl⟩ := Paired.unique opens paired begun content split
    obtain ⟨front', second', inside', rfl, _, begun', _, tail'⟩ := before.split
    rw [same] at begun'
    have deeper := tail' lower List.mem_cons_self (same ▸ mayClose') (same ▸ apart)
    have further := tail lower (by simp) (same ▸ mayClose') (same ▸ absent)
    rw [same] at deeper further
    have content' : Paired table label' (inside' ++ first :: (between ++ second :: inside)) :=
      deeper.append (.cons (Token.quiet_of_opens opens distinct) further)
    have split' : front' ++ second' :: (inside' ++ first :: (between ++ second :: inside)) =
        (front' ++ second' :: inside' ++ first :: between) ++ second :: inside := by simp
    have lengths := congrArg List.length (Paired.unique begun' content' opens' paired' split').1
    simp at lengths

/-- An error of the rest of the tokens reports a bracket that is open at the end of a pair. -/
theorem straddles_of_run {tag inner : List Char} (tracks : Tracks table state found rest)
    (accords : Accords state rest) (failed : run table state rest = .error (.crossing tag inner)) :
    ∃ element after, Straddles table (found ++ rest) ⟨element, tag⟩ ⟨element, inner⟩ after ∧
      closesIn inner (textOf after) = true := by
  induction rest generalizing state found with
  | nil => cases failed
  | cons token rest ih =>
    cases step : state.afterToken table rest token with
    | ok next =>
      rw [run, step] at failed
      have later := ih (tracks.afterToken accords step) (accords.afterToken step) failed
      rwa [List.append_assoc] at later
    | error error =>
      rw [run, step] at failed
      cases failed
      cases token with
      | tag _ => cases step
      | char _ => cases step
      | bracket element written =>
        obtain ⟨⟨rfl, _, isWritten⟩, _⟩ := accords
        have outcome := bracketStep table state written (textOf rest)
        rw [show state.afterBracket table written (textOf rest) = _ from step] at outcome
        cases outcome with
        | crossed closing defined whole own differs member here later =>
          exact ⟨_, rest, tracks.straddles isWritten closing
            (Token.closes_bracket_iff.mpr ⟨closing, rfl, _, defined.1⟩) whole own differs member here later,
            later⟩

/-- When no error is reported, no closing bracket follows for a bracket that is open at the end of a
pair. -/
theorem not_closesIn_of_run {front between inside skipped after : List Token} {first second last : Token}
    {name : List Char} {out : List Char} (tracks : Tracks table state found (skipped ++ last :: after))
    (accords : Accords state (skipped ++ last :: after))
    (rendered : run table state (skipped ++ last :: after) = .ok out)
    (whole : found ++ skipped = front ++ first :: (between ++ second :: inside))
    (opens : first.opens table label = true) (opens' : second.opens table ⟨label.element, name⟩ = true)
    (closes : last.closes table label = true) (paired : Paired table label (between ++ second :: inside))
    (paired' : Paired table ⟨label.element, name⟩ inside) : closesIn name (textOf after) = false := by
  induction skipped generalizing state found with
  | cons token rest ih =>
    rw [List.cons_append] at tracks accords rendered
    obtain ⟨next, step, rendered⟩ := run_cons_eq_ok rendered
    exact ih (tracks.afterToken accords step) (accords.afterToken step) rendered (by simpa using whole)
  | nil =>
    rw [List.append_nil] at whole
    subst whole
    obtain ⟨next, step, _⟩ := run_cons_eq_ok rendered
    cases last with
    | tag _ => cases closes
    | char _ => cases closes
    | bracket element written =>
      obtain ⟨⟨rfl, _, isWritten⟩, _⟩ := accords
      obtain ⟨closing, rfl, definition, listed⟩ := Token.closes_bracket_iff.mp closes
      have outcome := bracketStep table state written (textOf after)
      rw [show state.afterBracket table written (textOf after) = .ok next from step] at outcome
      have mayClose : state.MayClose (.bracket state.element written :: after) ⟨state.element, written.name⟩ :=
        .here (closesIn_self isWritten closing after)
      rw [Bool.eq_false_iff]
      intro later
      cases outcome with
      | unknown unknown => simp [unknown] at listed
      | opened opening => simp [closing] at opening
      | refused opening => simp [closing] at opening
      | unmatched _ _ unmatched =>
        obtain ⟨bracket, member, same⟩ := tracks.exists_open opens paired mayClose
        exact unmatched bracket member same
      | closed _ _ whole own differs uncrossed =>
        obtain ⟨other, member, same⟩ := tracks.exists_inside opens opens' paired paired' mayClose
          (.here (closesIn_cons later _)) whole own differs
        obtain ⟨here, named⟩ := Label.mk.inj same
        have none := uncrossed other member here
        rw [named, later] at none
        cases none

end Tracks

/-- Whether each parameter is one that the pattern of its tag accepts. -/
def ParametersFit (table : Table) (found : List Token) : Prop :=
  ∀ element written definition parameter value, .bracket element written ∈ found →
    table.get? written.name = some definition → definition.parameter = some parameter →
    written.parameter = some value → parameter.pattern.accepts value = true

theorem not_fit_of_run {name value : List Char}
    (failed : run table state rest = .error (.invalidParameter name value)) : ¬ ParametersFit table rest := by
  intro fits
  induction rest generalizing state with
  | nil => cases failed
  | cons token rest ih =>
    cases step : state.afterToken table rest token with
    | ok next =>
      rw [run, step] at failed
      refine ih failed ?_
      intro element written definition parameter value member
      exact fits element written definition parameter value (List.mem_cons_of_mem _ member)
    | error error =>
      rw [run, step] at failed
      cases failed
      cases token with
      | tag _ => cases step
      | char _ => cases step
      | bracket element written =>
        have outcome := bracketStep table state written (textOf rest)
        rw [show state.afterBracket table written (textOf rest) = _ from step] at outcome
        cases outcome with
        | invalid _ defined takes given rejected =>
          have accepted := fits element written _ _ _ List.mem_cons_self defined.1 takes given
          rw [accepted] at rejected
          cases rejected

/-- A crossing is reported exactly if a bracket is open at the end of a pair in its element and the text
that follows holds a closing bracket of its name. If that one closes it, then two pairs cross. -/
theorem render_crossing (table : Table) (markup : List Char) :
    (∀ tag inner, render table markup = .error (.crossing tag inner) →
      ∃ element rest, Straddles table (tokens .start markup) ⟨element, tag⟩ ⟨element, inner⟩ rest ∧
        closesIn inner (textOf rest) = true ∧
        ((∃ beyond last after, rest = beyond ++ last :: after ∧ Paired table ⟨element, inner⟩ beyond ∧
          last.closes table ⟨element, inner⟩ = true) →
            Crosses table (tokens .start markup) tag inner)) ∧
    (ParametersFit table (tokens .start markup) →
      ((∃ out, render table markup = .ok out) ↔ ∀ element tag inner rest,
        Straddles table (tokens .start markup) ⟨element, tag⟩ ⟨element, inner⟩ rest →
          closesIn inner (textOf rest) = false)) := by
  have start : Tracks table .start [] (tokens .start markup) := .start
  have accords := accords_tokens .start markup
  rw [render, renderFrom_eq_run]
  refine ⟨fun tag inner failed => ?_, fun fits => ⟨?_, fun settled => ?_⟩⟩
  · obtain ⟨element, rest, straddles, later⟩ := start.straddles_of_run accords failed
    refine ⟨element, rest, straddles, later, ?_⟩
    rintro ⟨beyond, last, after, rfl, paired', closes'⟩
    obtain ⟨front, first, between, second, inside, close, whole, opens, opens', closes, paired, content⟩ :=
      straddles
    refine ⟨element, front, first, between, second, inside, close, beyond, last, after, whole, opens, opens',
      closes, closes', paired, content.append (.cons ?_ paired')⟩
    refine Token.quiet_of_closes closes fun same => ?_
    have quiet := paired.not_opens (same.symm ▸ content)
    rw [same, opens'] at quiet
    cases quiet
  · rintro ⟨out, rendered⟩ element tag inner rest ⟨front, first, between, second, inside, last, whole, opens,
      opens', closes, paired, paired'⟩
    have split : tokens .start markup =
        (front ++ first :: (between ++ second :: inside)) ++ last :: rest := by simp [whole]
    rw [split] at start accords rendered
    exact start.not_closesIn_of_run accords rendered (List.nil_append _) opens opens' closes paired paired'
  · cases rendered : run table .start (tokens .start markup) with
    | ok out => exact ⟨out, rfl⟩
    | error error =>
      cases error with
      | crossing tag inner =>
        obtain ⟨element, rest, straddles, later⟩ := start.straddles_of_run accords rendered
        simp [settled element tag inner rest straddles] at later
      | invalidParameter name value => exact absurd fits (not_fit_of_run rendered)

/-- Two pairs that cross. -/
def overlapping : List Char := "[b][i]x[/b][/i]".toList

theorem render_crossing_overlapping :
    render .builtin overlapping = .error (.crossing "b".toList "i".toList) ∧ ∃ element rest,
      Straddles .builtin (tokens .start overlapping) ⟨element, "b".toList⟩ ⟨element, "i".toList⟩ rest ∧
        closesIn "i".toList (textOf rest) = true := by
  have failed : render .builtin overlapping = .error (.crossing "b".toList "i".toList) := by decide +kernel
  obtain ⟨element, rest, straddles, later, _⟩ := (render_crossing .builtin overlapping).1 _ _ failed
  exact ⟨failed, element, rest, straddles, later⟩

/-- A pair, and a link whose title looks like the end of another one. -/
def endingTitle : List Char := "[b][i]x[/b]<a title=\"[/i]\">z</a>".toList

/-- The title of a link is taken for a closing bracket, though there is no other. -/
theorem not_crosses_endingTitle :
    render .builtin endingTitle = .error (.crossing "b".toList "i".toList) ∧
      ¬ Crosses .builtin (tokens .start endingTitle) "b".toList "i".toList := by
  refine ⟨by decide +kernel, ?_⟩
  rintro ⟨element, front, first, between, second, inside, close, beyond, last, rest, whole, _, _, _, closes, _⟩
  have none : ∀ token ∈ tokens .start endingTitle, token.closesName "i".toList = false := by decide +kernel
  have member : last ∈ tokens .start endingTitle := by simp [whole]
  exact Bool.false_ne_true ((none last member).symm.trans (Token.closesName_of_closes closes))

end PostMarkup.BBCode
