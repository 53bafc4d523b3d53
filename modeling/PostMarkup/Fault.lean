/-! # Requests without an answer

A few operations have no sensible answer on inputs that their callers promise not to give. Such a
request is refused with the reason.
-/

namespace PostMarkup

/-- Why an operation has no answer. -/
inductive Fault where
  /-- An entity to be replaced stops before it starts. -/
  | invertedSpan (start stop : Nat)
  /-- The blank just before the marker of a link target takes more than one byte. -/
  | wideBlankBeforeMarker (blank : Char)
  /-- A sanitizing policy allows an element whose whole content is always removed. -/
  | removedElementAllowed (name : String)
deriving DecidableEq, Repr

end PostMarkup
