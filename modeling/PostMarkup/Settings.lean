import PostMarkup.Text.Blank

/-! # Settings of a server

What the links of a server are made of and how addresses and emoji are shown.
-/

namespace PostMarkup

open PostMarkup.Text

structure Settings where
  /-- Where the addresses of hashtags start. -/
  baseUrl : List Char := "https://localhost".toList
  /-- The domain of the accounts of this server. -/
  localDomain : List Char := "localhost".toList
  /-- How many characters of an address are visible after its scheme. -/
  shownLength : Nat := 30
  /-- Whether addresses without a scheme are linked. -/
  linkBareDomains : Bool := false
  /-- Whether emoji are shown by their animated images. -/
  animatedEmoji : Bool := false
deriving DecidableEq, Repr

namespace Settings

/-- The base address without slashes at its end. -/
def origin (settings : Settings) : List Char := dropEndWhile (· = '/') settings.baseUrl

/-- The address of a hashtag whose name is percent-encoded. -/
def hashtagUrl (settings : Settings) (encodedTag : List Char) : List Char :=
  settings.origin ++ "/tags/".toList ++ encodedTag

end Settings

end PostMarkup
