import PostMarkup.Proofs.BBCode.Element
import PostMarkup.Proofs.BBCode.Token

/-! # What a bracket tag does

All that a bracket tag can do to what is known in the middle of reading markup: it is copied, opened,
or closes an open bracket of its label, or it is an error.
-/

namespace PostMarkup.BBCode

open PostMarkup.Text PostMarkup.BBCode.State

/-- What a pair of brackets has in common: the name and the element in which both ends stand. -/
structure Label where
  element : Nat
  name : List Char
deriving DecidableEq, Repr

def OpenBracket.label (bracket : OpenBracket) : Label := ⟨bracket.element, bracket.definition.name⟩

/-- Whether a definition is that of a bracket tag. -/
def Table.Defines (table : Table) (bracket : Bracket) (definition : Definition) : Prop :=
  table.get? bracket.name = some definition ∧ definition.name = bracket.name

/-- The state after a bracket tag in front of some text, or the error. -/
inductive BracketStep (table : Table) (state : State) (bracket : Bracket) (after : List Char) :
    Except Error State → Prop
  /-- The name is not defined. -/
  | unknown : table.get? bracket.name = none →
      BracketStep table state bracket after (.ok (state.copy bracket.source))
  | opened {definition : Definition} : bracket.closing = false → table.Defines bracket definition →
      definition.Takes bracket.parameter →
      BracketStep table state bracket after (.ok (state.push definition bracket))
  /-- There is a parameter where none belongs, or the other way round. -/
  | refused {definition : Definition} : bracket.closing = false → table.Defines bracket definition →
      ¬ definition.Takes bracket.parameter →
      BracketStep table state bracket after (.ok (state.copy bracket.source))
  | invalid {definition : Definition} {parameter : Parameter} {value : List Char} :
      bracket.closing = false → table.Defines bracket definition →
      definition.parameter = some parameter → bracket.parameter = some value →
      parameter.pattern.accepts value = false →
      BracketStep table state bracket after (.error (.invalidParameter bracket.name value))
  /-- No bracket with the label is open. -/
  | unmatched {definition : Definition} : bracket.closing = true → table.Defines bracket definition →
      (∀ opened ∈ state.openBrackets, opened.label ≠ ⟨state.element, bracket.name⟩) →
      BracketStep table state bracket after (.ok (state.copy bracket.source))
  /-- A bracket opened later in the same element may still be closed. -/
  | crossed {definition : Definition} {inner others : List OpenBracket} {opened other : OpenBracket} :
      bracket.closing = true → table.Defines bracket definition →
      state.openBrackets = inner ++ opened :: others → opened.label = ⟨state.element, bracket.name⟩ →
      (∀ later ∈ inner, later.label ≠ ⟨state.element, bracket.name⟩) →
      other ∈ inner → other.element = state.element → closesIn other.definition.name after = true →
      BracketStep table state bracket after (.error (.crossing bracket.name other.definition.name))
  | closed {definition : Definition} {inner others : List OpenBracket} {opened : OpenBracket} :
      bracket.closing = true → table.Defines bracket definition →
      state.openBrackets = inner ++ opened :: others → opened.label = ⟨state.element, bracket.name⟩ →
      (∀ later ∈ inner, later.label ≠ ⟨state.element, bracket.name⟩) →
      (∀ other ∈ inner, other.element = state.element → closesIn other.definition.name after = false) →
      BracketStep table state bracket after (.ok { state with
        openBrackets := others
        written := opened.before ++ opened.html ++ unopened inner state.written ++ definition.htmlClose })

variable {table : Table} {state : State} {bracket : Bracket} {definition : Definition}

/-- The open bracket that a closing one matches, after the brackets opened since. -/
theorem matched {brackets others : List OpenBracket} {opened : OpenBracket} {own : OpenBracket → Bool}
    (found : brackets.drop (brackets.takeWhile fun other => !own other).length = opened :: others) :
    brackets = brackets.takeWhile (fun other => !own other) ++ opened :: others ∧ own opened = true := by
  rw [drop_takeWhile] at found
  have whole := List.takeWhile_append_dropWhile (p := fun other => !own other) (l := brackets)
  have stop := List.head?_dropWhile_not (fun other => !own other) brackets
  rw [found] at whole stop
  exact ⟨whole.symm, by simpa using stop⟩

theorem beginPair_step (closing : bracket.closing = false) (defined : table.Defines bracket definition)
    (after : List Char) :
    BracketStep table state bracket after (state.beginPair definition bracket) := by
  rw [State.beginPair]
  split
  · rename_i plain bare
    exact .opened closing defined (by simp [Definition.Takes, plain, bare])
  · rename_i parameter value takes given
    split
    · rename_i accepted
      refine .opened closing defined ?_
      simpa [Definition.Takes, takes, given] using accepted
    · rename_i rejected
      rw [defined.2]
      exact .invalid closing defined takes given (by simpa using rejected)
  · rename_i mismatch mismatch'
    refine .refused closing defined ?_
    unfold Definition.Takes
    split
    · rename_i plain bare
      exact absurd bare (mismatch plain)
    · rename_i parameter value takes given
      exact absurd given (mismatch' parameter value takes)
    · exact id

theorem endPair_step (closing : bracket.closing = true) (defined : table.Defines bracket definition)
    (after : List Char) :
    BracketStep table state bracket after (state.endPair definition bracket after) := by
  obtain ⟨own, isOwn⟩ : ∃ own : OpenBracket → Bool, own = fun opened =>
    decide (opened.definition.name = definition.name) && decide (opened.element = state.element) :=
    ⟨_, rfl⟩
  have labelled (opened : OpenBracket) :
      own opened = true ↔ opened.label = ⟨state.element, bracket.name⟩ := by
    simp [isOwn, OpenBracket.label, defined.2, and_comm]
  have others (later : OpenBracket)
      (member : later ∈ state.openBrackets.takeWhile fun other => !own other) :
      later.label ≠ ⟨state.element, bracket.name⟩ := by
    have passed := List.all_eq_true.mp List.all_takeWhile later member
    exact fun same => absurd ((labelled later).mpr same) (by simpa using passed)
  have named : (fun opened : OpenBracket => !(decide (opened.definition.name = definition.name) &&
      decide (opened.element = state.element))) = fun opened => !own opened := by rw [isOwn]
  simp only [State.endPair, named]
  split
  · rename_i none
    rw [drop_takeWhile] at none
    have whole := List.takeWhile_append_dropWhile (p := fun other => !own other) (l := state.openBrackets)
    rw [none, List.append_nil] at whole
    exact .unmatched closing defined fun opened member => others opened (by rwa [whole])
  · rename_i opened rest split
    obtain ⟨whole, isSame⟩ := matched split
    split
    · rename_i other crossing
      have chosen := List.find?_some crossing
      simp only [Bool.and_eq_true, decide_eq_true_eq] at chosen
      rw [defined.2]
      exact .crossed closing defined whole ((labelled opened).mp isSame) others
        (List.mem_reverse.mp (List.mem_of_find?_eq_some crossing)) chosen.1 chosen.2
    · rename_i uncrossed
      refine .closed closing defined whole ((labelled opened).mp isSame) others fun other member here => ?_
      have passed := List.find?_eq_none.mp uncrossed other (List.mem_reverse.mpr member)
      simpa [here] using passed

/-- A bracket tag does nothing else. -/
theorem bracketStep (table : Table) (state : State) (bracket : Bracket) (after : List Char) :
    BracketStep table state bracket after (state.afterBracket table bracket after) := by
  rw [State.afterBracket]
  split
  · rename_i unknown
    exact .unknown unknown
  · rename_i definition listed
    have defined : table.Defines bracket definition := ⟨listed, by simpa using List.find?_some listed⟩
    split
    · rename_i closing
      exact endPair_step closing defined after
    · rename_i closing
      exact beginPair_step (by simpa using closing) defined after

end PostMarkup.BBCode
