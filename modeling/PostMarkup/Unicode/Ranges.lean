/-! # Membership in sorted ranges of code points

A character property is a list of closed ranges in ascending order. Lookup stops at the first
range that starts above the code point, so the answer never depends on what follows it.
-/

namespace PostMarkup.Unicode

/-- Closed ranges of code points in ascending order. -/
abbrev Ranges := List (Nat × Nat)

/-- Whether some range holds the code point; the ranges are ascending. -/
def Ranges.holds : Ranges → Nat → Bool
  | [], _ => false
  | (first, last) :: rest, code =>
    if code < first then false else code ≤ last || Ranges.holds rest code

end PostMarkup.Unicode
