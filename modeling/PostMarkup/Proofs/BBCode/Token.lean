import PostMarkup.BBCode.Render
import PostMarkup.Proofs.BBCode.Bracket
import PostMarkup.Proofs.Markup.Written

/-! # What a reader of bracket tags finds

Which tags, characters and bracket tags are found in markup does not depend on the table, nor on
what is written. So replacing bracket tags first finds these tokens and then takes one step for each
of them.
-/

namespace PostMarkup.BBCode

open PostMarkup.Text

inductive Token where
  | tag (written : Tag)
  | char (c : Char)
  /-- A bracket tag, with the number of the element that it stands in. -/
  | bracket (element : Nat) (written : Bracket)
deriving DecidableEq, Repr

def Token.pieces : Token → List Piece
  | .tag written => [.tag written]
  | .char c => [.char c]
  | .bracket _ written => written.source.map .char

def textOf (tokens : List Token) : List Char := sourceOf (tokens.flatMap Token.pieces)

/-- What is found in a text by a reader that stands where a state says. -/
def tokens (state : State) : List Char → List Token
  | [] => []
  | c :: rest =>
    match Tag.read? (c :: rest) with
    | some tag => .tag tag :: tokens (state.afterTag tag) (rest.drop (tag.source.length - 1))
    | none =>
      match if state.copiedDepth = 0 then Bracket.read? (c :: rest) else none with
      | none => .char c :: tokens state rest
      | some bracket => .bracket state.element bracket :: tokens state (rest.drop (bracket.source.length - 1))
termination_by text => text.length
decreasing_by all_goals (simp only [List.length_cons, List.length_drop]; omega)

def State.afterToken (state : State) (table : Table) (rest : List Token) : Token → Except Error State
  | .tag tag => .ok (state.afterTag tag)
  | .char c => .ok (state.copy [c])
  | .bracket _ bracket => state.afterBracket table bracket (textOf rest)

def run (table : Table) (state : State) : List Token → Except Error (List Char)
  | [] => .ok state.output
  | token :: rest => do run table (← state.afterToken table rest token) rest

namespace State

variable {state other next : State} {table : Table} {bracket : Bracket} {after : List Char}

/-- Whether readers with these states stand in the same elements. -/
structure Agrees (state other : State) : Prop where
  elements : state.elements = other.elements
  lastElement : state.lastElement = other.lastElement
  copiedDepth : state.copiedDepth = other.copiedDepth

namespace Agrees

theorem copy (state : State) (text : List Char) : state.Agrees (state.copy text) := ⟨rfl, rfl, rfl⟩

theorem element (agrees : state.Agrees other) : state.element = other.element := by
  rw [State.element, State.element, agrees.elements]

theorem afterTag (agrees : state.Agrees other) (tag : Tag) :
    (state.afterTag tag).Agrees (other.afterTag tag) := by
  obtain ⟨elements, last, depth⟩ := agrees
  unfold State.afterTag
  split
  · exact ⟨congrArg List.tail elements, last, by simp only [depth]⟩
  · split
    · exact ⟨elements, last, depth⟩
    · exact ⟨by simp only [elements, last], by simp only [last], by simp only [depth]⟩

/-- Brackets leave a reader where it is. -/
theorem afterBracket (step : state.afterBracket table bracket after = .ok next) :
    state.Agrees next := by
  unfold State.afterBracket State.endPair State.beginPair at step
  split at step
  · cases step
    exact ⟨rfl, rfl, rfl⟩
  · split at step
    · simp only at step
      split at step
      · cases step
        exact ⟨rfl, rfl, rfl⟩
      · split at step
        · cases step
        · cases step
          exact ⟨rfl, rfl, rfl⟩
    · split at step
      · cases step
        exact ⟨rfl, rfl, rfl⟩
      · split at step
        · cases step
          exact ⟨rfl, rfl, rfl⟩
        · cases step
      · cases step
        exact ⟨rfl, rfl, rfl⟩

end Agrees

end State

theorem tokens_congr {state other : State} (agrees : state.Agrees other) (text : List Char) :
    tokens state text = tokens other text := by
  fun_induction tokens state text generalizing other with
  | case1 => rw [tokens]
  | case2 state c rest tag found ih =>
    rw [tokens, found]
    exact congrArg _ (ih (agrees.afterTag tag))
  | case3 state c rest unread bare ih =>
    rw [dite_eq_ite, agrees.copiedDepth] at bare
    rw [tokens, unread]
    dsimp only
    rw [bare]
    exact congrArg _ (ih agrees)
  | case4 state c rest unread bracket found ih =>
    rw [dite_eq_ite, agrees.copiedDepth] at found
    rw [tokens, unread]
    dsimp only
    rw [found, agrees.element]
    exact congrArg _ (ih agrees)

/-- What is found in a text makes up its tags and the characters between them. -/
theorem pieces_tokens (state : State) (text : List Char) :
    (tokens state text).flatMap Token.pieces = pieces text := by
  fun_induction tokens state text with
  | case1 => simp
  | case2 state c rest tag found ih =>
    rw [pieces, found, List.flatMap_cons, ih]
    rfl
  | case3 state c rest unread _ ih =>
    rw [pieces, unread, List.flatMap_cons, ih]
    rfl
  | case4 state c rest unread bracket found ih =>
    rw [dite_eq_ite, Option.ite_none_right_eq_some] at found
    obtain ⟨whole, clean⟩ := Bracket.drop_source found.2
    rw [List.flatMap_cons, ih, whole, pieces_of_not_mem clean]
    rfl

/-- The tokens of a text make it up. -/
@[simp] theorem textOf_tokens (state : State) (text : List Char) :
    textOf (tokens state text) = text := by
  rw [textOf, pieces_tokens, source_pieces]

/-- Replacing bracket tags in a text takes the steps for its tokens. -/
theorem renderFrom_eq_run (table : Table) (state : State) (text : List Char) :
    renderFrom table state text = run table state (tokens state text) := by
  fun_induction renderFrom table state text with
  | case1 => rw [tokens, run]
  | case2 state c rest tag found ih =>
    rw [tokens, found, ih]
    rfl
  | case3 state c rest unread bare ih =>
    rw [tokens, unread]
    dsimp only
    rw [dite_eq_ite] at bare
    rw [bare, ih, ← tokens_congr (State.Agrees.copy state [c])]
    rfl
  | case4 state c rest unread bracket found after ih =>
    rw [tokens, unread]
    dsimp only
    rw [dite_eq_ite] at found
    rw [found]
    simp only [run, State.afterToken, textOf_tokens]
    cases step : state.afterBracket table bracket after with
    | error _ => rfl
    | ok next =>
      rw [tokens_congr (State.Agrees.afterBracket step)]
      exact ih next

/-- What the steps for the first of some tokens and for the others give. -/
theorem run_cons_eq_ok {table : Table} {state : State} {token : Token} {rest : List Token}
    {out : List Char} (rendered : run table state (token :: rest) = .ok out) :
    ∃ next, state.afterToken table rest token = .ok next ∧ run table next rest = .ok out := by
  cases step : state.afterToken table rest token with
  | error _ =>
    rw [run, step] at rendered
    cases rendered
  | ok next =>
    rw [run, step] at rendered
    exact ⟨next, rfl, rendered⟩

/-- Whether the bracket tags among tokens read back and stand where a reader looks for them, in the
elements given. -/
def Accords (state : State) : List Token → Prop
  | [] => True
  | .tag tag :: rest => Accords (state.afterTag tag) rest
  | .char _ :: rest => Accords state rest
  | .bracket element bracket :: rest =>
    (element = state.element ∧ state.copiedDepth = 0 ∧ bracket.IsWritten) ∧ Accords state rest

theorem accords_congr {state other : State} {found : List Token} (agrees : state.Agrees other)
    (accords : Accords state found) : Accords other found := by
  fun_induction Accords state found generalizing other with
  | case1 => trivial
  | case2 state tag rest ih => exact ih (agrees.afterTag tag) accords
  | case3 state c rest ih => exact ih agrees accords
  | case4 state element bracket rest ih =>
    obtain ⟨⟨stands, depth, written⟩, accords⟩ := accords
    exact ⟨⟨stands.trans agrees.element, agrees.copiedDepth ▸ depth, written⟩, ih agrees accords⟩

theorem Accords.afterToken {table : Table} {state next : State} {token : Token} {rest : List Token}
    (accords : Accords state (token :: rest))
    (step : state.afterToken table rest token = .ok next) : Accords next rest := by
  cases token with
  | tag tag =>
    cases step
    exact accords
  | char c =>
    cases step
    exact accords_congr (.copy state [c]) accords
  | bracket element bracket => exact accords_congr (.afterBracket step) accords.2

theorem accords_tokens (state : State) (text : List Char) : Accords state (tokens state text) := by
  fun_induction tokens state text with
  | case1 => trivial
  | case2 state c rest tag _ ih => exact ih
  | case3 state c rest _ _ ih => exact ih
  | case4 state c rest _ bracket found ih =>
    rw [dite_eq_ite, Option.ite_none_right_eq_some] at found
    exact ⟨⟨rfl, found.1, Bracket.isWritten_of_read? found.2⟩, ih⟩

end PostMarkup.BBCode
