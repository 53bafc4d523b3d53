import PostMarkup.BBCode.Pattern.Class
import PostMarkup.Unicode.Numeric

/-! # Reading patterns

The written form of a pattern has literal characters, a dot for any character but the line feed,
classes in brackets, edges, groups in parentheses, bars between alternatives, and the repetitions
`*`, `+`, `?` and counts in braces, each with an optional `?` that changes nothing here. Letters
after `(?` change how the rest of the group is read: `i` ignores letter case. What cannot be read
so, nests too deep or takes too much room when its repetitions are written out is no pattern.
-/

namespace PostMarkup.Pattern

open PostMarkup.Text

/-- A pattern as it was read. -/
structure Part where
  pattern : Pattern
  /-- The depth of its groups, repetitions, lists and classes. -/
  depth : Nat
  /-- Whether a repetition may follow. -/
  repeatable : Bool

/-- A group that is being read: its finished alternatives, and the members of the last one, both
last one first. -/
structure Group where
  alternatives : List Part
  members : List Part

namespace Group

def start : Group := ⟨[], []⟩

def add (group : Group) (member : Part) : Group :=
  { group with members := member :: group.members }

def depthOf (parts : List Part) : Nat := parts.foldl (fun depth part => max depth part.depth) 0

def sequence (group : Group) : Part :=
  match group.members with
  | [] => ⟨nothing, 0, true⟩
  | [member] => member
  | members =>
    ⟨members.foldl (fun rest member => member.pattern.andThen rest) nothing,
      depthOf members + 1, true⟩

def branch (group : Group) : Group := ⟨group.sequence :: group.alternatives, []⟩

def content (group : Group) : Part :=
  match group.alternatives with
  | [] => group.sequence
  | alternatives =>
    let branches := group.sequence :: alternatives
    ⟨anyOf (branches.reverse.map Part.pattern), depthOf branches + 1, true⟩

/-- A group as a member of the one around it. -/
def close (group : Group) : Part :=
  let content := group.content
  ⟨content.pattern, content.depth + 1, true⟩

/-- A group with its last member repeated; none if there is nothing to repeat. -/
def repeat? (group : Group) (least : Nat) (most : Option Nat) : Option Group :=
  match group.members with
  | last :: rest =>
    if last.repeatable then
      some { group with
        members := ⟨counted last.pattern least most, last.depth + 1, true⟩ :: rest }
    else none
  | [] => none

end Group

/-- Where the reading of a pattern stands. -/
structure Reading where
  flags : Flags
  group : Group
  /-- The groups around it, innermost first, with the flags that hold again after it. -/
  outer : List (Group × Flags)
  /-- The names of groups so far. -/
  names : List (List Char)

namespace Reading

/-- A reading with a further member of the group. -/
def add (reading : Reading) (pattern : Pattern) (depth : Nat) : Reading :=
  { reading with group := reading.group.add ⟨pattern, depth, true⟩ }

def enter (reading : Reading) (inside : Flags) : Reading :=
  { reading with
    flags := inside
    group := .start
    outer := (reading.group, reading.flags) :: reading.outer }

def addChar (reading : Reading) (c : Char) : Reading :=
  reading.add (one ((CharSet.single c).ignoringCase reading.flags.ignoreCase)) 0

end Reading

/-- Flags with one of them changed; none if the letter is no flag that can be changed so. -/
def Flags.change? (flags : Flags) (on : Bool) : Char → Option Flags
  | 'i' => some { flags with ignoreCase := on }
  | 'm' => some { flags with multiLine := on }
  | 's' => some { flags with dotAll := on }
  | 'x' => some { flags with verbose := on }
  | 'U' => some flags
  | 'u' => if on then some flags else none
  | _ => none

/-- The flags after letters up to a colon or a closing parenthesis, whether there were any, and the
text from there on. A letter comes once, and a hyphen turns off the ones after it. -/
def readFlags? (flags : Flags) (seen : List Char) : List Char →
    Option (Flags × Bool × List Char)
  | [] => none
  | c :: rest =>
    if c = ':' ∨ c = ')' then
      if seen.head? = some '-' then none else some (flags, !seen.isEmpty, c :: rest)
    else if seen.contains c then none
    else if c = '-' then readFlags? flags (c :: seen) rest
    else (flags.change? (!seen.contains '-') c).bind fun changed =>
      readFlags? changed (c :: seen) rest

def isGroupName : List Char → Bool
  | [] => false
  | first :: rest =>
    (first = '_' || Unicode.isAlphabetic first) && rest.all fun c =>
      c = '_' || c = '.' || c = '[' || c = ']' || Unicode.isAlphabetic c || Unicode.isNumeric c

/-- The reading after an opening parenthesis and what belongs to it, and the rest of the text. -/
def readOpening? (reading : Reading) (text : List Char) : Option (Reading × List Char) :=
  let named (rest : List Char) : Option (Reading × List Char) :=
    let name := rest.takeWhile (· ≠ '>')
    match rest.drop name.length with
    | _ :: after =>
      if isGroupName name ∧ ¬reading.names.contains name then
        some ({ reading.enter reading.flags with names := name :: reading.names }, after)
      else none
    | [] => none
  match reading.flags.skip text with
  | '?' :: 'P' :: '<' :: rest | '?' :: '<' :: rest => named rest
  | '?' :: rest =>
    (readFlags? reading.flags [] rest).bind fun (flags, any, after) =>
      if after.head? = some ':' then some (reading.enter flags, after.tail)
      else if any then
        some ({ reading with flags, group := reading.group.add ⟨nothing, 0, false⟩ }, after.tail)
      else none
  | rest => some (reading.enter reading.flags, rest)

def maxCount : Nat := 4294967295

/-- The count at the start of a text, and the text after it and the blanks around it. -/
def readCount? (flags : Flags) (text : List Char) : Option (Nat × List Char) :=
  let body := text.dropWhile isBlank
  let digits := body.takeWhile Char.isDigit
  match numeral? 10 digits with
  | some count =>
    if count ≤ maxCount then some (count, flags.skip ((body.drop digits.length).dropWhile isBlank))
    else none
  | none => none

/-- The least and the greatest count that follow an opening brace, and the text after them. -/
def readCounts? (flags : Flags) (text : List Char) :
    Option ((Nat × Option Nat) × List Char) := do
  let (low, rest) ← readCount? flags (flags.skip text)
  match rest with
  | '\x7d' :: after => some ((low, some low), after)
  | ',' :: more =>
    match flags.skip more with
    | '\x7d' :: after => some ((low, none), after)
    | following =>
      let (high, beyond) ← readCount? flags following
      match beyond with
      | '\x7d' :: after => if low ≤ high then some ((low, some high), after) else none
      | _ => none
  | _ => none

/-- A text without the question mark that may follow a repetition. -/
def dropLazy : List Char → List Char
  | '?' :: rest => rest
  | text => text

def signEdge? (flags : Flags) : Char → Option Edge
  | '^' => some (if flags.multiLine then .lineStart else .textStart)
  | '$' => some (if flags.multiLine then .lineEnd else .textEnd)
  | _ => none

/-- The reading after a character that is no group, bar, class or repetition, and what belongs to
it, and the rest of the text. -/
def readSingle? (reading : Reading) (c : Char) (rest : List Char) :
    Option (Reading × List Char) :=
  if c = '\\' then
    (readEscape? rest).map fun (found, after) =>
      match found with
      | .char denoted => (reading.addChar denoted, after)
      | .set set => (reading.add (one set) 0, after)
      | .edge edge => (reading.add (atEdge edge) 0, after)
  else if c = '.' then
    let set : CharSet := if reading.flags.dotAll then .all else .complement (.single '\n')
    some (reading.add (one set) 0, rest)
  else match signEdge? reading.flags c with
    | some edge => some (reading.add (atEdge edge) 0, rest)
    | none => some (reading.addChar c, rest)

/-- What is read of the rest of a written form. The number bounds the steps, and one more than the
length of the written form is enough. -/
def readFrom? : Nat → Reading → List Char → Option Part
  | 0, _, _ => none
  | steps + 1, reading, text =>
    let go := readFrom? steps
    let repeated (least : Nat) (most : Option Nat) (rest : List Char) : Option Part :=
      (reading.group.repeat? least most).bind fun group =>
        go { reading with group } (dropLazy rest)
    match reading.flags.skip text with
    | [] => if reading.outer.isEmpty then some reading.group.content else none
    | '(' :: rest => (readOpening? reading rest).bind fun (inside, after) => go inside after
    | ')' :: rest =>
      match reading.outer with
      | (parent, flags) :: outer =>
        go { reading with flags, group := parent.add reading.group.close, outer } rest
      | [] => none
    | '|' :: rest => go { reading with group := reading.group.branch } rest
    | '*' :: rest => repeated 0 none rest
    | '+' :: rest => repeated 1 none rest
    | '?' :: rest => repeated 0 (some 1) rest
    | '\x7b' :: rest =>
      (readCounts? reading.flags rest).bind fun ((least, most), after) =>
        repeated least most (reading.flags.skip after)
    | '[' :: rest =>
      (readClass? reading.flags rest).bind fun (operand, after) =>
        go (reading.add (one operand.set) operand.depth) after
    | c :: rest => (readSingle? reading c rest).bind fun (read, after) => go read after

def maxDepth : Nat := 250

def maxRoom : Nat := 10485760

/-- The pattern of the texts in which a written form fits some part. -/
def search? (written : List Char) : Option Pattern :=
  (readFrom? (written.length + 1) ⟨⟨false, false, false, false⟩, .start, [], []⟩ written).bind
    fun part =>
      if part.depth ≤ maxDepth ∧ part.pattern.room ≤ maxRoom then some part.pattern.somewhere
      else none

/-- The pattern of the texts that a written form fits as a whole. -/
def read? (written : List Char) : Option Pattern :=
  search? ("^(?:".toList ++ written ++ ")$".toList)

end PostMarkup.Pattern
