import PostMarkup.BBCode.Pattern.Escape

/-! # Classes in brackets

A class lists characters, ranges, named classes and further classes in brackets, and operators
between two lists intersect or subtract what they list. Operators are read from left to right.
-/

namespace PostMarkup.Pattern

open PostMarkup.Text

/-- How the following part of a pattern is read. -/
structure Flags where
  ignoreCase : Bool
  /-- Whether `^` and `$` also fit at the lines inside the text. -/
  multiLine : Bool
  /-- Whether the dot fits the line feed as well. -/
  dotAll : Bool
  /-- Whether blanks and comments are skipped. -/
  verbose : Bool
deriving DecidableEq, Repr

/-- A text without the blanks and comments at its start; a comment runs from a number sign to the
end of the line. -/
def dropNotes (inComment : Bool) : List Char → List Char
  | [] => []
  | c :: rest =>
    if inComment then dropNotes (c ≠ '\n') rest
    else if isBlank c then dropNotes false rest
    else if c = '#' then dropNotes true rest
    else c :: rest

/-- A text from where reading goes on. -/
def Flags.skip (flags : Flags) (text : List Char) : List Char :=
  if flags.verbose then dropNotes false text else text

def asciiClasses : List (String × List (Char × Char)) :=
  [("alnum", [('0', '9'), ('A', 'Z'), ('a', 'z')]), ("alpha", [('A', 'Z'), ('a', 'z')]),
    ("ascii", [('\x00', '\x7f')]), ("blank", [('\t', '\t'), (' ', ' ')]),
    ("cntrl", [('\x00', '\x1f'), ('\x7f', '\x7f')]), ("digit", [('0', '9')]),
    ("graph", [('!', '~')]), ("lower", [('a', 'z')]), ("print", [(' ', '~')]),
    ("punct", [('!', '/'), (':', '@'), ('[', '\x60'), ('\x7b', '~')]),
    ("space", [('\t', '\r'), (' ', ' ')]), ("upper", [('A', 'Z')]),
    ("word", [('0', '9'), ('A', 'Z'), ('_', '_'), ('a', 'z')]),
    ("xdigit", [('0', '9'), ('A', 'F'), ('a', 'f')])]

/-- The named class that an opening bracket before a text starts, such as `[:alpha:]`, and the text
after it. -/
def readNamedClass? (flags : Flags) (text : List Char) : Option (CharSet × List Char) :=
  match text with
  | ':' :: rest =>
    let negated := rest.head? = some '^'
    let named := if negated then rest.tail else rest
    let name := named.takeWhile (· ≠ ':')
    match named.drop name.length with
    | ':' :: ']' :: after =>
      (asciiClasses.find? fun entry => entry.1 = String.ofList name).map fun entry =>
        (((CharSet.ofRanges entry.2).ignoringCase flags.ignoreCase).negatedIf negated, after)
    | _ => none
  | _ => none

/-- An operator between two lists of a class. -/
inductive SetOperator where
  | intersection
  | difference
  | symmetricDifference
deriving DecidableEq, Repr

def SetOperator.apply : SetOperator → CharSet → CharSet → CharSet
  | intersection => .intersection
  | difference => .difference
  | symmetricDifference => .symmetricDifference

def setOperator? : Char → Option SetOperator
  | '&' => some .intersection
  | '-' => some .difference
  | '~' => some .symmetricDifference
  | _ => none

/-- A set and the depth of its brackets and operators. -/
structure Operand where
  set : CharSet
  depth : Nat
deriving DecidableEq, Repr

structure ClassReading where
  negated : Bool
  /-- Whether only hyphens were read so far. -/
  atStart : Bool
  /-- An operator that waits for its second list, and what comes before it. -/
  pending : Option (SetOperator × Operand)
  /-- The members of the list that is being read, last one first. -/
  items : List Operand

namespace ClassReading

/-- The class that starts a text after its opening bracket, and the rest of the text. -/
def start (flags : Flags) (text : List Char) : ClassReading × List Char :=
  match flags.skip text with
  | '^' :: rest => (⟨true, true, none, []⟩, rest)
  | rest => (⟨false, true, none, []⟩, rest)

def add (reading : ClassReading) (item : Operand) : ClassReading :=
  { reading with items := item :: reading.items }

def list (reading : ClassReading) : Operand :=
  match reading.items with
  | [] => ⟨.empty, 0⟩
  | [item] => item
  | last :: others =>
    others.foldl (fun whole item =>
      ⟨.union item.set whole.set, max (item.depth + 1) whole.depth⟩) ⟨last.set, last.depth + 1⟩

/-- What was read so far. -/
def settle (flags : Flags) (reading : ClassReading) : Operand :=
  let right := reading.list
  match reading.pending with
  | none => right
  | some (operator, left) =>
    ⟨operator.apply (left.set.ignoringCase flags.ignoreCase)
        (right.set.ignoringCase flags.ignoreCase), max left.depth right.depth + 1⟩

def operate (flags : Flags) (reading : ClassReading) (operator : SetOperator) : ClassReading :=
  { reading with pending := some (operator, reading.settle flags), items := [] }

def close (flags : Flags) (reading : ClassReading) : Operand :=
  let inner := reading.settle flags
  ⟨(inner.set.ignoringCase flags.ignoreCase).negatedIf reading.negated, inner.depth + 1⟩

end ClassReading

/-- A member of a class without brackets, and the text after it. -/
def readMember? : List Char → Option (Escape × List Char)
  | [] => none
  | '\\' :: rest => readEscape? rest
  | c :: rest => some (.char c, rest)

/-- The set of a member of a class; none if it is an edge. -/
def Escape.set? : Escape → Option CharSet
  | .char c => some (.single c)
  | .set found => some found
  | .edge _ => none

/-- The member or the range at the start of a text, and the text after it. -/
def readRange? (flags : Flags) (text : List Char) : Option (CharSet × List Char) := do
  let (first, rest) ← readMember? text
  let single := first.set?.map fun set => (set, rest)
  match flags.skip rest with
  | '-' :: more =>
    let following := flags.skip more
    if following.head? = some ']' ∨ following.head? = some '-' then single
    else
      let (last, after) ← readMember? following
      match first, last with
      | .char low, .char high => if low ≤ high then some (.range low high, after) else none
      | _, _ => none
  | _ => single

/-- The class that is being read inside `outer` ones, and the text after its closing bracket. The
number bounds the steps. -/
def readClassFrom? (flags : Flags) : Nat → ClassReading → List ClassReading → List Char →
    Option (Operand × List Char)
  | 0, _, _, _ => none
  | steps + 1, reading, outer, text =>
    let go := readClassFrom? flags steps
    match flags.skip text with
    | [] => none
    | c :: rest =>
      let entered := { reading with atStart := false }
      if reading.atStart ∧ c = '-' then go (reading.add ⟨.single '-', 0⟩) outer rest
      else if reading.atStart ∧ reading.items.isEmpty ∧ c = ']' then
        go (entered.add ⟨.single ']', 0⟩) outer rest
      else if c = '[' then
        match readNamedClass? flags rest with
        | some (set, after) => go (entered.add ⟨set, 0⟩) outer after
        | none =>
          let (inner, body) := ClassReading.start flags rest
          go inner (entered :: outer) body
      else if c = ']' then
        match outer with
        | [] => some (entered.close flags, rest)
        | parent :: others => go (parent.add (entered.close flags)) others rest
      else
        match (setOperator? c).filter fun _ => rest.head? = some c with
        | some operator => go (entered.operate flags operator) outer rest.tail
        | none =>
          (readRange? flags (c :: rest)).bind fun (set, after) =>
            go (entered.add ⟨set, 0⟩) outer after

/-- The class that starts a text after its opening bracket, and the text after its closing one. -/
def readClass? (flags : Flags) (text : List Char) : Option (Operand × List Char) :=
  let (reading, body) := ClassReading.start flags text
  readClassFrom? flags (text.length + 1) reading [] body

end PostMarkup.Pattern
