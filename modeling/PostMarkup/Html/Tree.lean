import PostMarkup.Html.Foreign
import PostMarkup.Html.Node

/-! # The tree of a source

A source is read token by token. Where content that is text follows an opening tag, it is read up to
the closing tag of the element. The mark at the start of a source that tells the order of its bytes
is no part of it.
-/

namespace PostMarkup.Html

namespace Builder

/-- A tree after a token that is read at most so many times. -/
def settle (builder : Builder) (token : Token) : Nat → Builder
  | 0 => builder
  | times + 1 =>
    let step := if builder.isForeign token then builder.inForeign token else builder.inMode token
    match step with
    | .done result => result
    | .again result => result.settle token times

/-- How often a token is read at most: reading it again closes an open element or goes on to the
mode of an inner part of a table. -/
def maxTimes (builder : Builder) : Nat := 4 * (builder.opened.length + 4)

def afterToken (builder : Builder) (token : Token) : Builder :=
  let settled := { builder with dropsLineFeed := false }
  if token = .skipped ∨ (builder.dropsLineFeed ∧ token = .char '\n') then settled
  else settled.settle token settled.maxTimes

def afterSource (builder : Builder) : List Char → Builder
  | [] => builder
  | c :: rest =>
    let (tokens, taken) := firstTokens (builder.current.name.vocabulary ≠ .html) c rest
    let read := tokens.foldl afterToken builder
    match read.awaits with
    | none => read.afterSource (rest.drop taken)
    | some (raw, name) =>
      let (content, length) := contentOf raw name (rest.drop taken)
      let filled := content.foldl afterToken { read with awaits := none }
      filled.afterSource ((rest.drop taken).drop length)
termination_by source => source.length
decreasing_by all_goals (simp only [List.length_cons, List.length_drop]; omega)

/-- A tree after the end of its source. -/
def finish (builder : Builder) : Builder :=
  if builder.mode = .tableText then builder.flushText else builder

end Builder

def Forest.toNodes (forest : Forest) : Nat → List Nat → List Node
  | 0, _ => []
  | depth + 1, numbers =>
    numbers.filterMap fun number =>
      (forest.cells[number]?).map fun cell =>
        match cell.content with
        | .char c => .char c
        | .element name attributes =>
          .element name attributes (forest.toNodes depth cell.children.reverse)

/-- A source without the mark of the order of bytes at its start. -/
def withoutMark : List Char → List Char
  | '\ufeff' :: rest => rest
  | source => source

def parseFragment (source : List Char) : List Node :=
  let read := Builder.start.afterSource (normalizeLineEnds (withoutMark source))
  let forest := read.finish.forest
  forest.toNodes forest.cells.size (forest.children Forest.root).reverse

end PostMarkup.Html
