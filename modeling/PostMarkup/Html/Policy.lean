import PostMarkup.Fault

/-! # What survives sanitizing

A policy lists the elements that are kept, and for each of them the attributes and classes. Two
combinations contradict each other: an element whose classes are filtered may not keep them all,
and a relation that is forced on links may not be kept as well.
-/

namespace PostMarkup

/-- The parts of HTML that are kept. -/
structure Policy where
  elements : List String
  /-- The attributes that are kept by the names of elements. -/
  attributes : List (String × List String)
  /-- The classes that are kept by the names of elements. -/
  classes : List (String × List String)
  /-- The schemes of absolute addresses that are kept, in small letters. -/
  schemes : List String
  /-- The relation that every link gets. -/
  linkRelation : Option (List Char)
deriving DecidableEq, Repr

inductive SanitizeError where
  /-- The classes of an element are both kept and filtered. -/
  | classKeptAndFiltered (element : String)
  /-- The relation of links is both kept and forced. -/
  | relationKeptAndForced (element : String)
  /-- The sanitizer gives a reason of its own. -/
  | failed (reason : String)
  /-- The request is refused. -/
  | refused (fault : Fault)
deriving DecidableEq, Repr

namespace SanitizeError

def reason : SanitizeError → String
  | classKeptAndFiltered element =>
    "<" ++ element ++ "> lists \x60class\x60 both as attribute and as class allow-list"
  | relationKeptAndForced element =>
    "<" ++ element ++ "> allows \x60rel\x60 while a link rel is forced"
  | failed reason => reason
  | refused _ => "the policy is refused"

def message (error : SanitizeError) : String := "sanitizer failed: " ++ error.reason

end SanitizeError

/-- A way to make foreign HTML safe under a policy. -/
abbrev Sanitizer := Policy → List Char → Except SanitizeError (List Char)

namespace Policy

/-- Paragraphs, line breaks, links, and the spans of mentions and hashtags. -/
def strict : Policy :=
  let classes := ["h-card", "mention", "hashtag", "u-url", "ellipsis", "invisible"]
  { elements := ["p", "br", "span", "a"]
    attributes := [("a", ["href"])]
    classes := [("span", classes), ("a", classes)]
    schemes := ["http", "https", "dat", "dweb", "ipfs", "ipns", "ssb", "gopher", "xmpp", "magnet"]
    linkRelation := some "nofollow noopener noreferrer".toList }

/-- The values that a table gives an element. -/
def lookup? (table : List (String × List String)) (element : String) : Option (List String) :=
  (table.find? fun entry => entry.1 = element).map Prod.snd

/-- Elements whose content is always removed. -/
def removedElements : List String := ["script", "style"]

/-- The contradiction in what a policy keeps of an element. -/
def conflict? (policy : Policy) (entry : String × List String) : Option SanitizeError :=
  if entry.2.contains "class" && (lookup? policy.classes entry.1).isSome then
    some (.classKeptAndFiltered entry.1)
  else if entry.2.contains "rel" && policy.linkRelation.isSome then
    some (.relationKeptAndForced entry.1)
  else none

/-- What makes a policy unusable: a contradiction, or an element that is kept though its content is
always removed. -/
def error? (policy : Policy) : Option SanitizeError :=
  match policy.attributes.findSome? policy.conflict? with
  | some error => some error
  | none =>
    (removedElements.find? fun element =>
      policy.elements.contains element || (lookup? policy.attributes element).isSome).map
        fun element => .refused (.removedElementAllowed element)

end Policy

end PostMarkup
