import PostMarkup.Entity.Basic
import PostMarkup.Text.Blank
import PostMarkup.Unicode.Numeric

/-! # Hashtags and mentions

Both start with a sign, in its narrow or its wide form, that does not continue a word. Their
readers take the text before the sign, nearest character first, and the text after it, and answer
with what they read after the sign.
-/

namespace PostMarkup

open PostMarkup.Text PostMarkup.Unicode

def isWordChar (c : Char) : Bool := isAlphanumeric c || c = '_'

/-- Whether a text, kept nearest character first, ends in the reference of an ampersand. -/
def endsInAmpersand (before : List Char) : Bool := "&amp;".toList.reverse.isPrefixOf before

namespace Hashtag

/-- Whether a character is one of the two dots that may stand inside a hashtag. -/
def isInnerDot (c : Char) : Bool := c = '·' || c = '・'

/-- Whether the text before a number sign keeps it from starting a hashtag. -/
def blockedBy (form : TextForm) (before : List Char) : Bool :=
  before.head?.any (fun c => isWordChar c || c = '/' || c = ')' || c = '&') ||
    (form == .html && endsInAmpersand before)

/-- The tag after a number sign: words and inner dots with a letter among them. -/
def read? (form : TextForm) (before text : List Char) : Option (List Char) :=
  let tag := dropEndWhile isInnerDot (text.takeWhile fun c => isWordChar c || isInnerDot c)
  if !blockedBy form before && tag.any isAlphabetic then some tag else none

end Hashtag

namespace Mention

/-- Whether the text before an at sign keeps it from starting a mention. -/
def blockedBy (before : List Char) : Bool :=
  before.head?.any fun c => isWordChar c || c = '/' || c = '@' || c = '.'

def domain (text : List Char) : List Char :=
  dropEndWhile (fun c => c = '.' || c = '-')
    (text.takeWhile fun c => isAlphanumeric c || c = '.' || c = '-')

/-- The account after an at sign: a user name of ASCII, with an at sign and a domain if one
follows. -/
def read? (before text : List Char) : Option (List Char) :=
  let user := text.takeWhile fun c => c.isAlphanum || c = '_'
  if blockedBy before || user.isEmpty then none
  else match text.drop user.length with
    | '@' :: rest => if (domain rest).isEmpty then some user else some (user ++ '@' :: domain rest)
    | _ => some user

end Mention

end PostMarkup
