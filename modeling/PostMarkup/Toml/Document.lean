import PostMarkup.Toml.Scalar

/-! # Documents of TOML

A document is a sequence of lines that set keys and open tables. A key may be set once, a table may
be opened once, and neither may be made where something else stands already. Values and keys nest
less than eighty levels deep.
-/

namespace PostMarkup.Toml

open PostMarkup.Text

/-- How a table came about. -/
inductive Origin where
  /-- A header opened it. -/
  | header
  /-- It holds a table that a header opened. -/
  | implied
  /-- A dotted key made it. -/
  | dotted
deriving DecidableEq, Repr

inductive Item where
  | value (value : Value)
  | table (origin : Origin) (entries : List (List Char × Item))
  /-- Tables under one key, last one first. -/
  | tables (elements : List (List (List Char × Item)))

/-- The keys of a table with what stands under them. -/
abbrev Entries := List (List Char × Item)

namespace Entries

def get? (entries : Entries) (key : List Char) : Option Item :=
  (entries.find? fun entry => entry.1 = key).map Prod.snd

def put (entries : Entries) (key : List Char) (item : Item) : Entries :=
  (key, item) :: entries.filter fun entry => entry.1 ≠ key

/-- Entries after a line sets a key, which may be dotted. The key is set only in the table of the
line or in one that a dotted key made: `direct` says whether the entries belong to such a table. -/
def set? (entries : Entries) (direct : Bool) (value : Value) : List (List Char) → Option Entries
  | [] => none
  | [key] =>
    if direct && (entries.get? key).isNone then some (entries.put key (.value value)) else none
  | key :: next :: rest =>
    match entries.get? key with
    | none =>
      (set? [] true value (next :: rest)).map fun inner => entries.put key (.table .dotted inner)
    | some (.table .header _) | some (.value _) | some (.tables []) => none
    | some (.table origin inner) =>
      (set? inner (origin = .dotted) value (next :: rest)).map fun changed =>
        entries.put key (.table origin changed)
    | some (.tables (last :: others)) =>
      (set? last false value (next :: rest)).map fun changed =>
        entries.put key (.tables (changed :: others))

/-- Entries changed inside the table that a path leads to; missing tables are made. -/
def within? (entries : Entries) (change : Entries → Option Entries) :
    List (List Char) → Option Entries
  | [] => change entries
  | key :: rest =>
    match entries.get? key with
    | none => (within? [] change rest).map fun inner => entries.put key (.table .implied inner)
    | some (.table origin inner) =>
      (within? inner change rest).map fun changed => entries.put key (.table origin changed)
    | some (.tables (last :: others)) =>
      (within? last change rest).map fun changed => entries.put key (.tables (changed :: others))
    | some _ => none

def openTable? (key : List Char) (entries : Entries) : Option Entries :=
  match entries.get? key with
  | none => some (entries.put key (.table .header []))
  | some (.table .implied inner) => some (entries.put key (.table .header inner))
  | some _ => none

/-- Entries after a header opens a further one of the tables under a key. -/
def openElement? (key : List Char) (entries : Entries) : Option Entries :=
  match entries.get? key with
  | none => some (entries.put key (.tables [[]]))
  | some (.tables elements) => some (entries.put key (.tables ([] :: elements)))
  | some _ => none

end Entries

def dropSpaces (text : List Char) : List Char := text.dropWhile fun c => c = ' ' || c = '\t'

/-- A text without the comment at its start, if there is one; none if the comment is malformed. -/
def dropComment? (text : List Char) : Option (List Char) :=
  match text with
  | '#' :: rest =>
    let comment := rest.takeWhile fun c => c ≠ '\n' && c ≠ '\r'
    if comment.any isControl then none else some (rest.drop comment.length)
  | _ => some text

/-- A text without what ends its first line: spaces, a comment and the line end. -/
def dropLine? (text : List Char) : Option (List Char) :=
  (dropComment? (dropSpaces text)).bind fun rest =>
    if rest.isEmpty then some [] else dropLineEnd? rest

/-- A text without the spaces, comments and line ends at its start. The number bounds the steps. -/
def dropBlank? : Nat → List Char → Option (List Char)
  | 0, text => some text
  | steps + 1, text =>
    (dropComment? (dropSpaces text)).bind fun rest =>
      match dropLineEnd? rest with
      | some after => dropBlank? steps after
      | none => some rest

def readSimpleKey? (text : List Char) : Option (List Char × List Char) :=
  match text with
  | '"' :: rest => readLine? '"' true rest
  | '\'' :: rest => readLine? '\'' false rest
  | _ =>
    let key := text.takeWhile fun c => c.isAlphanum || c = '_' || c = '-'
    if key.isEmpty then none else some (key, text.drop key.length)

/-- The parts of the dotted key at the start of a text, and the text after it and its spaces. The
number bounds the steps. -/
def readKeyParts? : Nat → List Char → Option (List (List Char) × List Char)
  | 0, _ => none
  | steps + 1, text => do
    let (key, rest) ← readSimpleKey? (dropSpaces text)
    match dropSpaces rest with
    | '.' :: more =>
      let (keys, after) ← readKeyParts? steps more
      return (key :: keys, after)
    | after => return ([key], after)

/-- How many levels deep values and keys may nest. -/
def maxDepth : Nat := 79

/-- The dotted key at the start of a text, and the text after it and its spaces. -/
def readKey? (text : List Char) : Option (List (List Char) × List Char) :=
  (readKeyParts? (text.length + 1) text).filter fun (keys, _) => keys.length ≤ maxDepth

mutual

/-- The value at the start of a text, which may nest `depth` levels deep, and the text after it. The
number bounds the steps. -/
def readValue? (depth : Nat) : Nat → List Char → Option (Value × List Char)
  | 0, _ => none
  | _, [] => none
  | steps + 1, c :: rest =>
    if c = '"' ∨ c = '\'' then
      (readString? (c :: rest)).map fun (text, after) => (.string text, after)
    else if c = '[' then
      if depth = 0 then none
      else (readElements? (depth - 1) steps rest).map fun after => (.other, after)
    else if c = '\x7b' then
      if depth = 0 then none
      else (readMembers? (depth - 1) steps [] true rest).map fun after => (.other, after)
    else
      let word := readWord (c :: rest)
      (wordValue? word).map fun value => (value, (c :: rest).drop word.length)

def readElements? (depth : Nat) : Nat → List Char → Option (List Char)
  | 0, _ => none
  | steps + 1, text => do
    match ← dropBlank? text.length text with
    | ']' :: after => some after
    | start =>
      let (_, rest) ← readValue? depth steps start
      match ← dropBlank? rest.length rest with
      | ',' :: more => readElements? depth steps more
      | ']' :: after => some after
      | _ => none

/-- The text after the members of an inline table, of which `entries` are read; `first` says
whether the table may end here. -/
def readMembers? (depth : Nat) : Nat → Entries → Bool → List Char → Option (List Char)
  | 0, _, _, _ => none
  | steps + 1, entries, first, text =>
    match dropSpaces text with
    | '\x7d' :: after => if first then some after else none
    | start => do
      let (keys, afterKey) ← readKey? start
      match afterKey with
      | '=' :: rest =>
        let (value, afterValue) ← readValue? depth steps (dropSpaces rest)
        let changed ← entries.set? true value keys
        match dropSpaces afterValue with
        | ',' :: more => readMembers? depth steps changed false more
        | '\x7d' :: after => some after
        | _ => none
      | _ => none

end

def dropHeaderEnd? (double : Bool) (text : List Char) : Option (List Char) :=
  match double, text with
  | true, ']' :: ']' :: rest => dropLine? rest
  | false, ']' :: rest => dropLine? rest
  | _, _ => none

/-- The entries of a document after the lines of a text, which belong to the table that `path`
leads to. The number bounds the steps. -/
def readLines? : Nat → Entries → List (List Char) → List Char → Option Entries
  | 0, _, _, _ => none
  | steps + 1, entries, path, text => do
    let header (double : Bool) (rest : List Char) : Option Entries := do
      let (keys, after) ← readKey? rest
      let more ← dropHeaderEnd? double after
      let last ← keys.getLast?
      let opening := if double then Entries.openElement? last else Entries.openTable? last
      let changed ← entries.within? opening keys.dropLast
      readLines? steps changed keys more
    match ← dropBlank? text.length text with
    | [] => some entries
    | '[' :: '[' :: rest => header true rest
    | '[' :: rest => header false rest
    | start =>
      let (keys, afterKey) ← readKey? start
      match afterKey with
      | '=' :: rest =>
        let (value, afterValue) ← readValue? maxDepth rest.length (dropSpaces rest)
        let more ← dropLine? afterValue
        let changed ← entries.within? (Entries.set? · true value keys) path
        readLines? steps changed path more
      | _ => none

/-- The entries of a document, which may start with a byte order mark. -/
def read? (text : List Char) : Option Entries :=
  let body := if text.head? = some '\ufeff' then text.tail else text
  readLines? (body.length + 1) [] [] body

end PostMarkup.Toml
