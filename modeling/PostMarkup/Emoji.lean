import PostMarkup.Reference.Writer

/-! # Custom emoji

A shortcode between two colons is replaced by its image when it stands in text, outside tags and
outside invisible regions. A colon that closes no known shortcode may open the next one.
-/

namespace PostMarkup

structure CustomEmoji where
  shortcode : List Char
  url : List Char
  stillUrl : List Char
deriving DecidableEq, Repr

/-- The images of shortcodes; of two entries for one shortcode the later counts. -/
structure EmojiImages where
  entries : List (List Char × List Char)
deriving DecidableEq, Repr

namespace EmojiImages

/-- The images of custom emoji, animated or still. -/
def ofEmojis (animate : Bool) (emojis : List CustomEmoji) : EmojiImages :=
  ⟨emojis.map fun emoji => (emoji.shortcode, if animate then emoji.url else emoji.stillUrl)⟩

def get? (map : EmojiImages) (shortcode : List Char) : Option (List Char) :=
  (map.entries.reverse.find? fun entry => entry.1 == shortcode).map Prod.snd

def isEmpty (map : EmojiImages) : Bool := map.entries.isEmpty

end EmojiImages

namespace Emoji

/-- The tag that opens an invisible region. -/
def hiddenRegionTag : List Char := "<span class=\"invisible\">".toList

def image (shortcode url : List Char) : List Char :=
  let code := escapeAttribute shortcode
  "<img draggable=\"false\" class=\"emojione\" alt=\":".toList ++ code ++ ":\" title=\":".toList ++
    code ++ ":\" src=\"".toList ++ escapeAttribute url ++ "\" />".toList

/-- The number of elements that are open inside an invisible region, itself included, after a tag
that is kept last character first. -/
def depthAfter (depth : Nat) (tag : List Char) : Nat :=
  if depth = 0 then if tag.reverse = hiddenRegionTag then 1 else 0
  else if "</".toList.isPrefixOf tag.reverse then depth - 1
  else if ">/".toList.isPrefixOf tag then depth
  else depth + 1

/-- What the reader is in the middle of. -/
inductive Reading where
  /-- Text without an open colon. -/
  | text
  /-- What stands after a colon, last character first. -/
  | code (soFar : List Char)
  /-- A tag from its `<`, last character first. -/
  | tag (soFar : List Char)

/-- The characters that are read but not yet written. -/
def Reading.pending : Reading → List Char
  | text => []
  | code soFar => ':' :: soFar.reverse
  | tag _ => []

/-- Markup with its shortcodes replaced; `depth` is zero outside invisible regions. -/
def replaceFrom (map : EmojiImages) (depth : Nat) : Reading → List Char → List Char
  | reading, [] => reading.pending
  | .tag soFar, c :: rest =>
    if c = '>' then c :: replaceFrom map (depthAfter depth (c :: soFar)) .text rest
    else if c = '<' then c :: replaceFrom map depth (.tag [c]) rest
    else c :: replaceFrom map depth (.tag (c :: soFar)) rest
  | .text, c :: rest =>
    if c = '<' then c :: replaceFrom map depth (.tag [c]) rest
    else if c = ':' then replaceFrom map depth (.code []) rest
    else c :: replaceFrom map depth .text rest
  | .code soFar, c :: rest =>
    if c = ':' then
      match if depth = 0 then map.get? soFar.reverse else none with
      | some url => image soFar.reverse url ++ replaceFrom map depth .text rest
      | none => ':' :: soFar.reverse ++ replaceFrom map depth (.code []) rest
    else if c = '<' then ':' :: soFar.reverse ++ c :: replaceFrom map depth (.tag [c]) rest
    else replaceFrom map depth (.code (c :: soFar)) rest

/-- Markup with the shortcodes of a map replaced by their images. -/
def replace (map : EmojiImages) (markup : List Char) : List Char :=
  if map.isEmpty then markup else replaceFrom map 0 .text markup

end Emoji

end PostMarkup
