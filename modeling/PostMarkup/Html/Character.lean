import PostMarkup.Html.NamedCharacter

/-! # Characters of HTML sources

Character references are decoded leniently: a name may lack its semicolon, and a number that
denotes no character is replaced. A carriage return, alone or before a line feed, is a line feed.
-/

namespace PostMarkup.Html

open PostMarkup.Text

/-- The code points that the numbers from 128 to 159 stand for; zero marks the ones that stand for
themselves. -/
def legacyCodes : List Nat :=
  [0x20ac, 0, 0x201a, 0x0192, 0x201e, 0x2026, 0x2020, 0x2021, 0x02c6, 0x2030, 0x0160, 0x2039,
    0x0152, 0, 0x017d, 0, 0, 0x2018, 0x2019, 0x201c, 0x201d, 0x2022, 0x2013, 0x2014, 0x02dc,
    0x2122, 0x0161, 0x203a, 0x0153, 0, 0x017e, 0x0178]

def numericCharacter (code : Nat) : Char :=
  let legacy := if 0x80 ≤ code then (legacyCodes[code - 0x80]?).getD 0 else 0
  if legacy ≠ 0 then Char.ofNat legacy
  else if code ≠ 0 ∧ code.isValidChar then Char.ofNat code
  else '\ufffd'

/-- The characters that the reference after an ampersand stands for, and how many characters of the
text it takes. In an attribute a name without a semicolon counts only if neither a letter, a digit
nor an equals sign follows. -/
def reference? (inAttribute : Bool) (text : List Char) : Option (List Char × Nat) :=
  let numeric (base skipped : Nat) (digits : List Char) : Option (List Char × Nat) :=
    (numeral? base digits).map fun code =>
      let taken := skipped + digits.length
      let closed := (text.drop taken).head? = some ';'
      ([numericCharacter code], if closed then taken + 1 else taken)
  match text with
  | '#' :: 'x' :: rest | '#' :: 'X' :: rest =>
    numeric 16 2 (rest.takeWhile fun c => (hexValue? c).isSome)
  | '#' :: rest => numeric 10 1 (rest.takeWhile Char.isDigit)
  | _ => (readName? text).filter fun (_, taken) =>
      !inAttribute || (text.take taken).getLast? = some ';' ||
        !((text.drop taken).head?.any fun c => c.isAlphanum || c = '=')

def decodeReferences (inAttribute : Bool) : List Char → List Char
  | [] => []
  | c :: rest =>
    match if c = '&' then reference? inAttribute rest else none with
    | some (characters, taken) => characters ++ decodeReferences inAttribute (rest.drop taken)
    | none => c :: decodeReferences inAttribute rest
termination_by text => text.length
decreasing_by all_goals (simp only [List.length_cons, List.length_drop]; omega)

/-- A text in which every line ends in a line feed alone. -/
def normalizeLineEnds : List Char → List Char
  | [] => []
  | '\r' :: '\n' :: rest => '\n' :: normalizeLineEnds rest
  | '\r' :: rest => '\n' :: normalizeLineEnds rest
  | c :: rest => c :: normalizeLineEnds rest

def isTagSpace (c : Char) : Bool := c = ' ' || c = '\t' || c = '\n' || c = '\x0c'

end PostMarkup.Html
