import PostMarkup.Fault
import PostMarkup.Percent
import PostMarkup.Reference.Reader
import PostMarkup.Reference.Writer
import PostMarkup.Text.Blank
import PostMarkup.Text.Lines

/-! # Link targets held in percent encoding

A rendered link or image carries a marker. While other stages work on the markup the address in a
marked tag is held percent-encoded, so that it holds nothing a stage could act on. `encode` does
this to every marked tag; `decode` restores the addresses and removes the markers. Here a tag is
simply the text from a `<` to the next `>`.
-/

namespace PostMarkup.LinkTarget

open PostMarkup.Text

/-- The attribute of the tags whose addresses are held encoded. -/
def marker : List Char := "data-md-link".toList

/-- A tag or a character outside tags. -/
inductive Stretch where
  | char (c : Char)
  | tag (source : List Char)

/-- The tags of a text and the characters between them. -/
def stretches : List Char → List Stretch
  | [] => []
  | c :: rest =>
    if c = '<' then
      match _closed : cutAt? '>' rest with
      | some (inside, after) => .tag ('<' :: inside ++ ['>']) :: stretches after
      | none => .char c :: stretches rest
    else .char c :: stretches rest
termination_by text => text.length
decreasing_by
  · simp only [eq_of_cutAt? _closed, List.length_cons, List.length_append]
    omega
  · exact Nat.lt_add_one _
  · exact Nat.lt_add_one _

/-- Whether a character may stand just after the marker. -/
def endsMarker (c : Char) : Bool := c = ' ' || c = '/' || c = '>' || c = '='

/-- The text before and after the first marker that stands outside quotes after a blank; `quote`
is the quote that is open and `previous` the character before the text. -/
def cutAtMarker? (quote previous : Option Char) :
    List Char → Option (List Char × List Char)
  | [] => none
  | c :: rest =>
    let further (quote : Option Char) :=
      (cutAtMarker? quote (some c) rest).map fun (before, after) => (c :: before, after)
    match quote with
    | some mark => further (if c = mark then none else some mark)
    | none =>
      if c = '"' ∨ c = '\'' then further (some c)
      else match if previous.any isBlank then marker.isPrefixOf? (c :: rest) else none with
        | some after => if after.head?.any endsMarker then some ([], after) else further none
        | none => further none

def isMarked (tag : List Char) : Bool := (cutAtMarker? none none tag).isSome

/-- A tag without its marker and the blanks before it. The last of these blanks must take one
byte. -/
def dropMarker (tag : List Char) : Except Fault (List Char) :=
  match cutAtMarker? none none tag with
  | none => .ok tag
  | some (before, after) =>
    match before.getLast? with
    | none => .ok after
    | some blank =>
      if blank.toNat < 0x80 then .ok (trimEnd before.dropLast ++ after)
      else .error (.wideBlankBeforeMarker blank)

/-- The attributes that hold an address, with the quote that opens their value. -/
def addressAttributes : List (List Char) := ["href=\"".toList, "src=\"".toList]

/-- A tag with each of its addresses replaced, where `previous` is the character before the
text. -/
def mapAddresses (replace : List Char → List Char) (previous : Option Char) :
    List Char → List Char
  | [] => []
  | c :: rest =>
    match previous.filter isBlank, addressAttributes.find? (·.isPrefixOf (c :: rest)) with
    | some _, some lead =>
      let fromValue := rest.drop (lead.length - 1)
      let value := fromValue.takeWhile (· ≠ '"')
      match fromValue.drop value.length with
      | [] => c :: rest
      | quote :: _ =>
        lead ++ replace value ++ quote ::
          mapAddresses replace (some quote) (rest.drop (lead.length + value.length))
    | _, _ => c :: mapAddresses replace (some c) rest
termination_by text => text.length
decreasing_by all_goals (simp only [List.length_cons, List.length_drop]; omega)

def encodeTag (tag : List Char) : List Char :=
  mapAddresses (fun value => Percent.encode (unescape value)) none tag

/-- Markup with the addresses of its marked tags percent-encoded. -/
def encode (markup : List Char) : List Char :=
  (stretches markup).flatMap fun
    | .char c => [c]
    | .tag source =>
      if isMarked source then encodeTag source else source

/-- A tag with its addresses restored and its marker removed, if it is marked. -/
def decodeTag (tag : List Char) : Except Fault (List Char) :=
  if isMarked tag then
    dropMarker (mapAddresses (fun value => escapeAttribute (Percent.decode value)) none tag)
  else .ok tag

/-- Markup with the addresses of its marked tags restored and the markers removed. -/
def decode (markup : List Char) : Except Fault (List Char) :=
  (fun parts => parts.flatten) <$> (stretches markup).mapM fun
    | .char c => .ok [c]
    | .tag source => decodeTag source

end PostMarkup.LinkTarget
