import PostMarkup.Text.Ascii

/-! # Bracket tags

A bracket tag is `[name]`, `[name=parameter]` or `[/name]`, where the name consists of letters and
digits of ASCII and the parameter holds no bracket, no `<` and no line feed.
-/

namespace PostMarkup.BBCode

open PostMarkup.Text

structure Bracket where
  /-- The name with the capitals of ASCII made small. -/
  name : List Char
  closing : Bool
  parameter : Option (List Char)
  /-- The characters from the opening to the closing bracket. -/
  source : List Char
deriving DecidableEq, Repr

namespace Bracket

def isParameterChar (c : Char) : Bool := c ≠ ']' && c ≠ '[' && c ≠ '<' && c ≠ '\n'

/-- The bracket tag whose opening bracket, with the slash of a closing tag, is written in `lead`
and whose name starts the text. -/
def readName? (lead : List Char) (closing : Bool) (text : List Char) : Option Bracket :=
  let name := text.takeWhile Char.isAlphanum
  if name.isEmpty then none
  else match text.drop name.length with
    | ']' :: _ => some ⟨lowerAscii name, closing, none, lead ++ name ++ [']']⟩
    | '=' :: rest =>
      let parameter := rest.takeWhile isParameterChar
      if !closing && (rest.drop parameter.length).head? = some ']' then
        some ⟨lowerAscii name, false, some parameter, lead ++ name ++ '=' :: parameter ++ [']']⟩
      else none
    | _ => none

/-- The bracket tag at the start of a text. -/
def read? : List Char → Option Bracket
  | '[' :: '/' :: rest => readName? ['[', '/'] true rest
  | '[' :: rest => readName? ['['] false rest
  | _ => none

end Bracket

end PostMarkup.BBCode
