/-! # Spans of characters

A span is a half-open range of character positions. `Span.new?` makes the spans that hold at
least one position; the fields can also be set freely, and then a span may be empty or inverted.
-/

namespace PostMarkup

/-- The positions from `start` up to but not including `stop`. -/
structure Span where
  start : Nat
  stop : Nat
deriving DecidableEq, Repr

/-- Why a pair of positions is no span. -/
inductive SpanError where
  | inverted (start stop : Nat)
  | empty (position : Nat)
deriving DecidableEq, Repr

namespace SpanError

def message : SpanError → String
  | inverted start stop => "span start " ++ toString start ++ " is after its end " ++ toString stop
  | empty position => "span at " ++ toString position ++ " is empty"

end SpanError

namespace Span

/-- The span between two positions, the first of which must come before the second. -/
def new? (start stop : Nat) : Except SpanError Span :=
  if stop < start then .error (.inverted start stop)
  else if start = stop then .error (.empty start)
  else .ok ⟨start, stop⟩

def isEmpty (span : Span) : Bool := span.start = span.stop

/-- Whether each span starts before the other stops. -/
def overlaps (left right : Span) : Bool := left.start < right.stop && right.start < left.stop

/-- The order of two spans: by their starts and then by their stops. -/
def compare (left right : Span) : Ordering :=
  (Ord.compare left.start right.start).then (Ord.compare left.stop right.stop)

end Span

end PostMarkup
