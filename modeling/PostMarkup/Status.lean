import PostMarkup.Account
import PostMarkup.PlainText

/-! # Statuses

A post with its author and those it mentions. A status may repeat another post, which is then what
it shows.
-/

namespace PostMarkup

structure Post where
  text : List Char
  /-- The content warning. -/
  warning : List Char
  /-- Whether the post was written on this server, so that its text is markup to be rendered and
  not HTML. -/
  isLocal : Bool
  author : Account
  mentions : List Account
  emojis : List CustomEmoji
deriving DecidableEq, Repr

namespace Post

/-- The accounts that a post may link to: those it mentions and its author. -/
def known (post : Post) : List Account := post.mentions ++ [post.author]

/-- The text of a post without markup. -/
def plainText (post : Post) : List Char :=
  if post.isLocal then post.text else PlainText.ofHtml post.text

end Post

/-- A post and the post it repeats, if any. -/
structure Status where
  post : Post
  repeated : Option Post
deriving DecidableEq, Repr

namespace Status

/-- The post whose content is shown. -/
def shown (status : Status) : Post := status.repeated.getD status.post

end Status

end PostMarkup
