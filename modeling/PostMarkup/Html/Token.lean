import PostMarkup.Html.Attribute
import PostMarkup.Html.Character

/-! # Tokens of HTML sources

A source is text, tags and comments; declarations and mistakes leave no trace, and neither does a
tag that the source ends in. The content of some elements is text up to their closing tag, whatever
it looks like.
-/

namespace PostMarkup.Html

open PostMarkup.Text

structure OpeningTag where
  name : String
  attributes : List Attribute
  /-- Whether a slash ends the tag. -/
  selfCloses : Bool
deriving DecidableEq, Repr

inductive Token where
  | char (c : Char)
  | opening (tag : OpeningTag)
  | closing (name : String)
  | comment
  /-- A declaration or a mistake. -/
  | skipped
deriving DecidableEq, Repr

/-- Where a reader stands inside a tag; what it has read is kept last character first. -/
inductive TagPosition where
  | between
  | slash
  | name (soFar : List Char)
  | afterName (name : List Char)
  | beforeValue (name : List Char)
  | quoted (name : List Char) (mark : Char) (soFar : List Char)
  | unquoted (name : List Char) (soFar : List Char)
  | afterValue

/-- A character as a tag or a text without markup holds it. -/
def withoutNull (c : Char) : Char := if c = '\x00' then '\ufffd' else c

namespace TagPosition

/-- Attributes, last one first, with a further one unless its name is taken. -/
def add (attributes : List Attribute) (name value : List Char) : List Attribute :=
  let written := String.ofList name.reverse
  if attributes.any fun other => other.name = written then attributes
  else { name := written, value := decodeReferences true value.reverse } :: attributes

/-- The position and the attributes after a character of a tag that does not end it. -/
def next (attributes : List Attribute) (position : TagPosition) (c : Char) :
    TagPosition × List Attribute :=
  let fresh : TagPosition :=
    if isTagSpace c then between else if c = '/' then slash else name [c.toLower]
  match position with
  | between | slash | afterValue => (fresh, attributes)
  | name soFar =>
    if isTagSpace c then (afterName soFar, attributes)
    else if c = '/' then (slash, add attributes soFar [])
    else if c = '=' then (beforeValue soFar, attributes)
    else (name (c.toLower :: soFar), attributes)
  | afterName named =>
    if isTagSpace c then (afterName named, attributes)
    else if c = '=' then (beforeValue named, attributes)
    else (fresh, add attributes named [])
  | beforeValue named =>
    if isTagSpace c then (beforeValue named, attributes)
    else if c = '"' ∨ c = '\'' then (quoted named c [], attributes)
    else (unquoted named [c], attributes)
  | quoted named mark soFar =>
    if c = mark then (afterValue, add attributes named soFar)
    else (quoted named mark (c :: soFar), attributes)
  | unquoted named soFar =>
    if isTagSpace c then (between, add attributes named soFar)
    else (unquoted named (c :: soFar), attributes)

/-- The attributes of a tag that ends at a position, none if a `>` does not end it there. -/
def finish? (attributes : List Attribute) : TagPosition → Option (List Attribute)
  | between | slash | afterValue => some attributes
  | name soFar => some (add attributes soFar [])
  | afterName named => some (add attributes named [])
  | beforeValue named => some (add attributes named [])
  | quoted .. => none
  | unquoted named soFar => some (add attributes named soFar)

end TagPosition

/-- The attributes of a tag, last one first, whether a slash ends it, and the number of characters
up to and including the `>` that ends it; none if the source ends first. -/
def readAttributes? (attributes : List Attribute) (position : TagPosition) :
    List Char → Option (List Attribute × Bool × Nat)
  | [] => none
  | c :: rest =>
    match if c = '>' then position.finish? attributes else none with
    | some found => some (found, position matches .slash, 1)
    | none =>
      let (following, found) := position.next attributes (withoutNull c)
      (readAttributes? found following rest).map fun (all, slash, taken) => (all, slash, taken + 1)

/-- The tag whose name starts a text, and the number of characters it takes. -/
def readTag? (closing : Bool) (text : List Char) : Option (Token × Nat) :=
  let name := text.takeWhile fun c => !isTagSpace c && c ≠ '/' && c ≠ '>'
  let written := String.ofList ((lowerAscii name).map withoutNull)
  (readAttributes? [] .between (text.drop name.length)).map fun (attributes, slash, taken) =>
    (if closing then .closing written else .opening ⟨written, attributes.reverse, slash⟩,
      name.length + taken)

/-- The number of characters of a comment after its opening, up to and including its end. -/
def commentLength (text : List Char) : Nat :=
  match text with
  | '>' :: _ => 1
  | '-' :: '>' :: _ => 2
  | _ => untilEnd text
where
  /-- The number of characters up to and including the first end of a comment. -/
  untilEnd : List Char → Nat
    | [] => 0
    | '-' :: '-' :: '>' :: _ => 3
    | '-' :: '-' :: '!' :: '>' :: _ => 4
    | _ :: rest => untilEnd rest + 1

/-- The number of characters up to and including the first `>`, all if there is none. -/
def declarationLength (text : List Char) : Nat := (text.takeWhile (· ≠ '>')).length + 1

/-- The start of a declaration of the kind of a document, after its `<!`. -/
def declarationStart : List Char := "doctype".toList

/-- The start of a part of a drawing or a formula that is text throughout, after its `<!`. -/
def plainPartStart : List Char := "[CDATA[".toList

/-- The text before the first `]]>`. -/
def plainPart : List Char → List Char
  | [] => []
  | ']' :: ']' :: '>' :: _ => []
  | c :: rest => c :: plainPart rest

/-- The tokens that the markup after a `<` amounts to, and the number of characters it takes; none
if the `<` is text. Parts that are text throughout have a meaning only in `foreign` elements. -/
def markup? (foreign : Bool) (text : List Char) : Option (List Token × Nat) :=
  match text with
  | '!' :: '-' :: '-' :: rest => some ([.comment], 3 + commentLength rest)
  | '!' :: rest =>
    if foreign && plainPartStart.isPrefixOf rest then
      let part := plainPart (rest.drop plainPartStart.length)
      some (part.map .char, 1 + plainPartStart.length + part.length + 3)
    else
      let declares := startsIgnoringCase declarationStart rest
      some ([if declares then .skipped else .comment], 1 + declarationLength rest)
  | '?' :: rest => some ([.comment], 1 + declarationLength rest)
  | '/' :: [] => none
  | '/' :: '>' :: _ => some ([.skipped], 2)
  | '/' :: c :: rest =>
    if c.isAlpha then
      match readTag? true (c :: rest) with
      | some (tag, taken) => some ([tag], 1 + taken)
      | none => some ([], text.length)
    else some ([.comment], 1 + declarationLength (c :: rest))
  | c :: _ =>
    if c.isAlpha then
      match readTag? false text with
      | some (tag, taken) => some ([tag], taken)
      | none => some ([], text.length)
    else none
  | [] => none

/-- The tokens of the reference after an ampersand, and the number of characters it takes; none if
the ampersand is text. It is a mistake to leave out the semicolon. -/
def referenceTokens? (text : List Char) : Option (List Token × Nat) :=
  (reference? false text).map fun (characters, taken) =>
    let closed := (text.take taken).getLast? = some ';'
    ((if closed then [] else [.skipped]) ++ characters.map .char, taken)

/-- The tokens at the start of a source, and the number of characters that they take after the
first one. -/
def firstTokens (foreign : Bool) (c : Char) (rest : List Char) : List Token × Nat :=
  let found :=
    if c = '<' then markup? foreign rest
    else if c = '&' then referenceTokens? rest
    else none
  found.getD ([.char c], 0)

/-- How the content of an element is read that is text up to its closing tag. -/
inductive RawContent where
  /-- With references. -/
  | withReferences
  /-- As it is written. -/
  | verbatim
  /-- Like `verbatim`, but a closing tag does not count in a script that a comment holds. -/
  | script
  /-- To the end of the source. -/
  | unlimited
deriving DecidableEq, Repr

def textTokens (references : Bool) : List Char → List Token
  | [] => []
  | c :: rest =>
    match if references && c = '&' then referenceTokens? rest else none with
    | some (tokens, taken) => tokens ++ textTokens references (rest.drop taken)
    | none => .char (withoutNull c) :: textTokens references rest
termination_by text => text.length
decreasing_by all_goals (simp only [List.length_cons, List.length_drop]; omega)

/-- Whether a text starts with a word and something that ends the name of a tag. -/
def startsWithName (name text : List Char) : Bool :=
  startsIgnoringCase name text &&
    (text.drop name.length).head?.any fun next => isTagSpace next || next = '/' || next = '>'

/-- The number of characters before the closing tag of an element. -/
def lengthBefore (name : List Char) : List Char → Nat
  | [] => 0
  | c :: rest =>
    if c = '<' && startsWithName ('/' :: name) rest then 0 else lengthBefore name rest + 1

inductive ScriptPosition where
  | outside
  /-- In a comment, after a number of hyphens. -/
  | inComment (hyphens : Nat)
  /-- In a script that a comment holds, after a number of hyphens. -/
  | inInner (hyphens : Nat)
deriving DecidableEq, Repr

/-- The position after a character of a script; `rest` is the text after it. -/
def ScriptPosition.next (position : ScriptPosition) (c : Char) (rest : List Char) :
    ScriptPosition :=
  let script := "script".toList
  match position with
  | outside => if c = '<' && "!--".toList.isPrefixOf rest then inComment 0 else outside
  | inComment hyphens =>
    if c = '-' then inComment (hyphens + 1)
    else if c = '>' && 2 ≤ hyphens then outside
    else if c = '<' && startsWithName script rest then inInner 0
    else inComment 0
  | inInner hyphens =>
    if c = '-' then inInner (hyphens + 1)
    else if c = '>' && 2 ≤ hyphens then outside
    else if c = '<' && startsWithName ('/' :: script) rest then inComment 0
    else inInner 0

/-- The number of characters before the closing tag of a script. -/
def scriptLength (position : ScriptPosition) : List Char → Nat
  | [] => 0
  | c :: rest =>
    let ends := !(position matches .inInner _) && c = '<' &&
      startsWithName "/script".toList rest
    if ends then 0 else scriptLength (position.next c rest) rest + 1

/-- The tokens at the start of a text that are the content of an element, and the number of
characters they take. -/
def contentOf (raw : RawContent) (name : String) (text : List Char) : List Token × Nat :=
  let length := match raw with
    | .withReferences | .verbatim => lengthBefore name.toList text
    | .script => scriptLength .outside text
    | .unlimited => text.length
  (textTokens (raw = .withReferences) (text.take length), length)

end PostMarkup.Html
