import PostMarkup.Reference.Reader
import PostMarkup.Text.Ascii

/-! # Strings, numbers and dates of TOML

Each reader takes the text from where a value starts and answers with the value and the text after
it, or with nothing if the text is malformed.
-/

namespace PostMarkup.Toml

open PostMarkup.Text

/-- A value of a document. Values of the kinds that no setting has are not told apart. -/
inductive Value where
  | string (characters : List Char)
  | integer (number : Int)
  | boolean (value : Bool)
  | other
deriving DecidableEq, Repr

def isControl (c : Char) : Bool := (c.toNat < 0x20 && c ≠ '\t') || c.toNat = 0x7f

/-- The character that a number of hexadecimal digits at the start of a text denote. -/
def readCode? (digits : Nat) (text : List Char) : Option Char :=
  if (text.take digits).length = digits then (numeral? 16 (text.take digits)).bind scalar? else none

/-- The character that an escape stands for, and the number of characters after the backslash. -/
def readEscape? : List Char → Option (Char × Nat)
  | 'b' :: _ => some ('\x08', 1)
  | 't' :: _ => some ('\t', 1)
  | 'n' :: _ => some ('\n', 1)
  | 'f' :: _ => some ('\x0c', 1)
  | 'r' :: _ => some ('\r', 1)
  | '"' :: _ => some ('"', 1)
  | '\\' :: _ => some ('\\', 1)
  | 'u' :: rest => (readCode? 4 rest).map fun c => (c, 5)
  | 'U' :: rest => (readCode? 8 rest).map fun c => (c, 9)
  | _ => none

/-- The string up to its closing quote on the same line; `escapes` says whether a backslash has a
meaning. -/
def readLine? (quote : Char) (escapes : Bool) : List Char → Option (List Char × List Char)
  | [] => none
  | c :: rest =>
    if c = quote then some ([], rest)
    else if escapes ∧ c = '\\' then
      match readEscape? rest with
      | some (decoded, taken) =>
        (readLine? quote escapes (rest.drop taken)).map fun (text, after) =>
          (decoded :: text, after)
      | none => none
    else if isControl c then none
    else (readLine? quote escapes rest).map fun (text, after) => (c :: text, after)
termination_by text => text.length
decreasing_by all_goals (simp only [List.length_cons, List.length_drop]; omega)

def dropLineEnd? : List Char → Option (List Char)
  | '\n' :: rest => some rest
  | '\r' :: '\n' :: rest => some rest
  | _ => none

/-- The text after a backslash at the end of a line, without the blanks and line ends that follow;
none if something else follows on the line. -/
def dropFold? (text : List Char) : Option (List Char) :=
  let rest := text.dropWhile fun c => c = ' ' || c = '\t'
  if (dropLineEnd? rest).isSome then
    some (rest.dropWhile fun c => c = ' ' || c = '\t' || c = '\n' || c = '\r')
  else none

/-- The string up to three closing quotes, over several lines; up to two quotes just before them
belong to the string. The number bounds the steps, and the length of the text is enough. -/
def readBlock? (quote : Char) (escapes : Bool) : Nat → List Char → Option (List Char × List Char)
  | 0, _ => none
  | _, [] => none
  | steps + 1, c :: rest =>
    let go (text : List Char) := readBlock? quote escapes steps text
    let quotes := ((c :: rest).takeWhile (· = quote)).length
    if 3 ≤ quotes then
      if 5 < quotes then none
      else some (List.replicate (quotes - 3) quote, (c :: rest).drop quotes)
    else if escapes ∧ c = '\\' then
      match dropFold? rest with
      | some after => go after
      | none =>
        (readEscape? rest).bind fun (decoded, taken) =>
          (go (rest.drop taken)).map fun (text, after) => (decoded :: text, after)
    else match dropLineEnd? (c :: rest) with
      | some after => (go after).map fun (text, beyond) => ('\n' :: text, beyond)
      | none =>
        if isControl c then none else (go rest).map fun (text, after) => (c :: text, after)

/-- The string at the start of a text that begins with a quote. -/
def readString? (text : List Char) : Option (List Char × List Char) :=
  let block (quote : Char) (escapes : Bool) (rest : List Char) :=
    let body := (dropLineEnd? rest).getD rest
    readBlock? quote escapes (body.length + 1) body
  match text with
  | '"' :: '"' :: '"' :: rest => block '"' true rest
  | '"' :: rest => readLine? '"' true rest
  | '\'' :: '\'' :: '\'' :: rest => block '\'' false rest
  | '\'' :: rest => readLine? '\'' false rest
  | _ => none

/-- Digits without the underscores between them; none if one is not between two digits. -/
def joinDigits? (text : List Char) : Option (List Char) :=
  if splitAll text then some (text.filter (· ≠ '_')) else none
where
  /-- Whether the text is nonempty and each underscore stands between two other characters. -/
  splitAll : List Char → Bool
    | [] => false
    | [c] => c ≠ '_'
    | c :: next :: rest =>
      c ≠ '_' && (if next = '_' then splitAll rest else splitAll (next :: rest))

def readDigits? (base : Nat) (text : List Char) : Option Nat :=
  (joinDigits? text).bind (numeral? base)

/-- The number that decimal digits write, without a leading zero. -/
def readDecimal? (text : List Char) : Option Nat :=
  if 2 ≤ text.length ∧ text.head? = some '0' then none else readDigits? 10 text

def cutSign (text : List Char) : Bool × List Char :=
  match text with
  | '-' :: rest => (true, rest)
  | '+' :: rest => (false, rest)
  | _ => (false, text)

/-- The integer that a word writes, if it lies between −2⁶³ and 2⁶³ − 1. -/
def readInteger? (word : List Char) : Option Int :=
  let found : Option Int := match word with
    | '0' :: 'x' :: digits => (readDigits? 16 digits).map Int.ofNat
    | '0' :: 'o' :: digits => (readDigits? 8 digits).map Int.ofNat
    | '0' :: 'b' :: digits => (readDigits? 2 digits).map Int.ofNat
    | _ =>
      let (negative, digits) := cutSign word
      (readDecimal? digits).map fun number =>
        if negative then -Int.ofNat number else Int.ofNat number
  found.filter fun number => Int64.minValue.toInt ≤ number && number ≤ Int64.maxValue.toInt

/-- The numbers from this one on are too great for a number with a fraction: halfway between the
greatest one of 53 binary digits and the next power of two. -/
def overflowBound : Nat := (Nat.pow 2 54 - 1) * Nat.pow 2 970

/-- Whether a whole number times a power of ten is too great for a number with a fraction. -/
def overflows (digits : Nat) (exponent : Int) : Bool :=
  if exponent < 0 then overflowBound * Nat.pow 10 exponent.natAbs ≤ digits
  else digits ≠ 0 && (400 < exponent || overflowBound ≤ digits * Nat.pow 10 exponent.toNat)

/-- The exponent at the end of a word, zero if there is none. -/
def readExponent? (text : List Char) : Option Int :=
  match text with
  | [] => some 0
  | c :: rest =>
    if c = 'e' ∨ c = 'E' then
      let (negative, digits) := cutSign rest
      (readDigits? 10 digits).map fun number =>
        if negative then -Int.ofNat number else Int.ofNat number
    else none

/-- Whether a word without its sign writes a number with a fraction or an exponent; if it is
positive, then one that is not too great. -/
def isFraction (negative : Bool) (body : List Char) : Bool :=
  let isDigit (c : Char) : Bool := c.isDigit || c = '_'
  let whole := body.takeWhile isDigit
  let (fraction, rest) := match body.drop whole.length with
    | '.' :: rest => (rest.takeWhile isDigit, rest.dropWhile isDigit)
    | rest => ([], rest)
  let hasPoint := (body.drop whole.length).head? = some '.'
  let wellFormed := (readDecimal? whole).isSome && (hasPoint || !rest.isEmpty) &&
    (!hasPoint || (readDigits? 10 fraction).isSome)
  let digits := (whole ++ fraction).filter (· ≠ '_')
  let places : Int := (fraction.filter (· ≠ '_')).length
  wellFormed && (readExponent? rest).any fun exponent =>
    negative || exponent + digits.length < places ||
      !overflows ((numeral? 10 digits).getD 0) (exponent - places)

/-- Whether a word writes a number with a fraction or an exponent, an infinity or no number. -/
def isFloat (word : List Char) : Bool :=
  let (negative, body) := cutSign word
  body = "inf".toList || body = "nan".toList || isFraction negative body

/-- Whether a text has the form of a pattern in which `0` stands for any digit. -/
def hasForm (pattern text : List Char) : Bool :=
  pattern.length = text.length &&
    (pattern.zip text).all fun (expected, c) => if expected = '0' then c.isDigit else c = expected

def digitsAt (text : List Char) (position count : Nat) : Nat :=
  (numeral? 10 ((text.drop position).take count)).getD 0

def daysIn (year month : Nat) : Nat :=
  if month = 2 then
    if year % 4 = 0 ∧ (year % 100 ≠ 0 ∨ year % 400 = 0) then 29 else 28
  else if [4, 6, 9, 11].contains month then 30 else 31

/-- Whether a text is a day of the calendar. -/
def isDate (text : List Char) : Bool :=
  let month := digitsAt text 5 2
  hasForm "0000-00-00".toList text && 1 ≤ month && month ≤ 12 && 1 ≤ digitsAt text 8 2 &&
    digitsAt text 8 2 ≤ daysIn (digitsAt text 0 4) month

/-- Whether a text is a time of the day, with or without a fraction. -/
def isTime (text : List Char) : Bool :=
  let fraction := text.drop 8
  hasForm "00:00:00".toList (text.take 8) && digitsAt text 0 2 ≤ 23 && digitsAt text 3 2 ≤ 59 &&
    digitsAt text 6 2 ≤ 60 &&
    (fraction.isEmpty || (fraction.head? = some '.' && 2 ≤ fraction.length &&
      fraction.tail.all Char.isDigit))

/-- Whether a text is the distance of a time zone. -/
def isOffset (text : List Char) : Bool :=
  text = ['Z'] || text = ['z'] ||
    ((hasForm "+00:00".toList text || hasForm "-00:00".toList text) &&
      digitsAt text 1 2 ≤ 23 && digitsAt text 4 2 ≤ 59)

/-- Whether a word is a date, a time, or both with or without a time zone. -/
def isDateTime (word : List Char) : Bool :=
  isTime word || isDate word ||
    (isDate (word.take 10) &&
      ((word.drop 10).head?.any fun c => c = 'T' || c = 't' || c = ' ') &&
      let clock := (word.drop 11).takeWhile fun c => c.isDigit || c = ':' || c = '.'
      let zone := word.drop (11 + clock.length)
      isTime clock && (zone.isEmpty || isOffset zone))

/-- Whether a character may be part of a number, a date or a word. -/
def isWordChar (c : Char) : Bool :=
  c.isAlphanum || c = '_' || c = '+' || c = '-' || c = '.' || c = ':'

def wordValue? (word : List Char) : Option Value :=
  if word = "true".toList then some (.boolean true)
  else if word = "false".toList then some (.boolean false)
  else match readInteger? word with
    | some number => some (.integer number)
    | none => if isFloat word || isDateTime word then some .other else none

/-- The word at the start of a text; a date goes on after a space if a time follows. -/
def readWord (text : List Char) : List Char :=
  let word := text.takeWhile isWordChar
  match text.drop word.length with
  | ' ' :: rest =>
    let clock := rest.takeWhile isWordChar
    if isDate word ∧ isDateTime (word ++ ' ' :: clock) then word ++ ' ' :: clock else word
  | _ => word

end PostMarkup.Toml
