import PostMarkup.Account
import PostMarkup.Element
import PostMarkup.Entity.Basic
import PostMarkup.Percent
import PostMarkup.Settings
import PostMarkup.Url.Linked

/-! # Links to what entities name

An address is shown without its scheme and is cut off after some characters; what is left out stays
in the markup, where it is not visible. A mention of an unknown account and an address that is not
well formed are plain text.
-/

namespace PostMarkup

open PostMarkup.Text

/-- How an address is divided for display. -/
structure AddressLabel where
  /-- The scheme, and www if it follows. -/
  lead : List Char
  shown : List Char
  /-- What is left out. -/
  omitted : List Char
deriving DecidableEq, Repr

namespace AddressLabel

/-- The length of the scheme of an address and of the www that may follow it. -/
def leadLength (url : List Char) : Nat :=
  match Url.linkedScheme? url with
  | none => 0
  | some scheme =>
    if startsIgnoringCase "www.".toList (url.drop scheme.length) then scheme.length + 4
    else scheme.length

/-- The division of an address of which at most `limit` characters are shown. -/
def ofUrl (limit : Nat) (url : List Char) : AddressLabel :=
  let rest := url.drop (leadLength url)
  ⟨url.take (leadLength url), rest.take limit, rest.drop limit⟩

def writeSpan (name : String) (content : List Char) : List Char :=
  "<span".toList ++ writeAttribute "class" name.toList ++ '>' :: escapeText content ++
    "</span>".toList

def html (label : AddressLabel) : List Char :=
  writeSpan "invisible" label.lead ++
    writeSpan (if label.omitted.isEmpty then "" else "ellipsis") label.shown ++
    writeSpan "invisible" label.omitted

end AddressLabel

namespace Link

def mention (account : AccountLink) : List Char :=
  "<span class=\"h-card\"><a".toList ++ writeAttribute "href" account.url ++
    " class=\"u-url mention\">@<span>".toList ++ escapeText account.username ++
    "</span></a></span>".toList

def hashtag (settings : Settings) (tag : List Char) : List Char :=
  let href := settings.hashtagUrl (Percent.encode (Unicode.lowercase tag))
  "<a".toList ++ writeAttribute "href" href ++
    " class=\"mention hashtag\" rel=\"tag\">#<span>".toList ++ escapeText tag ++
    "</span></a>".toList

/-- The HTML of an address, which is linked if it is an absolute one by `isAddress`. An address without
a scheme leads to an unencrypted page. -/
def address (isAddress : List Char → Bool) (settings : Settings) (url : List Char) : List Char :=
  let href := if AddressLabel.leadLength url = 0 then "http://".toList ++ url else url
  if isAddress href then
    "<a".toList ++ writeAttribute "href" href ++
      writeAttribute "target" "_blank".toList ++
      writeAttribute "rel" linkRelation ++
      '>' :: (AddressLabel.ofUrl settings.shownLength url).html ++ "</a>".toList
  else escapeText url

/-- The HTML of an entity whose span holds `slice`. -/
def entity (isAddress : List Char → Bool) (settings : Settings) (resolver : Resolver)
    (found : Entity) (slice : List Char) : List Char :=
  match found.kind with
  | .markup => slice
  | .url written => address isAddress settings written
  | .hashtag tag => hashtag settings tag
  | .mention account =>
    match resolver account with
    | some known => mention known
    | none => '@' :: escapeText account

end Link

end PostMarkup
