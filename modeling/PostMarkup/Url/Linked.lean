import PostMarkup.Text.Ascii

/-! # Schemes of linked addresses

Only pages of the web are linked. Letter case does not matter in a scheme.
-/

namespace PostMarkup.Url

open PostMarkup.Text

/-- The schemes of addresses that are linked, each with its separator. -/
def linkedSchemes : List (List Char) := ["http://".toList, "https://".toList]

/-- The scheme with which a text starts, in small letters. -/
def linkedScheme? (text : List Char) : Option (List Char) :=
  linkedSchemes.find? (startsIgnoringCase · text)

/-- The scheme with which a text starts is the start of the text in small letters. -/
theorem lowerAscii_of_linkedScheme? {text scheme : List Char} (found : linkedScheme? text = some scheme) :
    scheme ∈ linkedSchemes ∧ lowerAscii (text.take scheme.length) = scheme := by
  refine ⟨List.mem_of_find?_eq_some found, ?_⟩
  have starts : startsIgnoringCase scheme text = true := List.find?_some (p := (startsIgnoringCase · text)) found
  exact lowerAscii_take starts

/-- Whether an address has one of the schemes and something after it. -/
def isLinkable (url : List Char) : Bool :=
  (linkedScheme? url).any fun scheme => scheme.length < url.length

end PostMarkup.Url
