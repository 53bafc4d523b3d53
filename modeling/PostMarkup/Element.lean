import PostMarkup.Reference.Writer

/-! # Writing elements

Attribute values stand between double quotes and are escaped, so that no value ends its tag.
-/

namespace PostMarkup

def writeAttribute (name : String) (value : List Char) : List Char :=
  ' ' :: name.toList ++ "=\"".toList ++ escapeAttribute value ++ ['"']

/-- An element without attributes around its content. -/
def writeElement (name content : List Char) : List Char :=
  '<' :: name ++ '>' :: content ++ "</".toList ++ name ++ ['>']

def linkRelation : List Char := "nofollow noopener noreferrer".toList

end PostMarkup
