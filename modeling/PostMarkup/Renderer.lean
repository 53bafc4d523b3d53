import PostMarkup.BBCode.Render
import PostMarkup.Entity.Extract
import PostMarkup.Entity.Substitution
import PostMarkup.Html.Policy
import PostMarkup.Layout
import PostMarkup.Link
import PostMarkup.Markdown.Document
import PostMarkup.Status

/-! # Rendering posts, biographies and names

A post of this server passes through Markdown, linking, emoji, paragraphs and bracket tags; the
targets of its links are held encoded meanwhile. Foreign HTML is sanitized. A collaborator that
fails is passed over: its input is escaped or kept.
-/

namespace PostMarkup

open PostMarkup.Text

/-- What renders posts: the settings of a server and three collaborators. -/
structure Renderer where
  settings : Settings
  sanitizer : Sanitizer
  /-- Whether a text is an absolute address. -/
  isAddress : List Char → Bool
  /-- Replaces the bracket tags of markup. -/
  brackets : List Char → Except BBCode.Error (List Char)

namespace Renderer

def showEmoji (renderer : Renderer) (emojis : List CustomEmoji) (markup : List Char) : List Char :=
  Emoji.replace (.ofEmojis renderer.settings.animatedEmoji emojis) markup

/-- Markup with the shortcodes of custom emoji replaced if that is wanted. -/
def showEmojiIf (renderer : Renderer) (wanted : Bool) (emojis : List CustomEmoji)
    (markup : List Char) : List Char :=
  if wanted then renderer.showEmoji emojis markup else markup

/-- Markup with its bracket tags replaced, or as it is if they cannot be. -/
def replaceBrackets (renderer : Renderer) (markup : List Char) : List Char :=
  match renderer.brackets markup with
  | .ok rendered => rendered
  | .error _ => markup

/-- HTML made safe under a policy, or escaped if the sanitizer fails. -/
def sanitize (renderer : Renderer) (policy : Policy) (html : List Char) :
    Except Fault (List Char) :=
  match renderer.sanitizer policy html with
  | .ok clean => .ok clean
  | .error (.refused fault) => .error fault
  | .error _ => .ok (escapeText html)

/-- Foreign HTML made safe under the strict policy. -/
def cleanForeign (renderer : Renderer) (html : List Char) : Except Fault (List Char) :=
  renderer.sanitize .strict html

/-- Text with its addresses, hashtags and mentions linked, in paragraphs. -/
def linkText (renderer : Renderer) (resolver : Resolver) (text : List Char) :
    Except Fault (List Char) := do
  let entities := Entity.extract .plain renderer.settings.linkBareDomains text
  let link := Link.entity renderer.isAddress renderer.settings resolver
  let linked ← Entity.substitute .plain link entities text
  return Layout.inParagraphs linked

/-- Markup with its addresses, hashtags and mentions linked outside finished elements. -/
def linkMarkup (renderer : Renderer) (resolver : Resolver) (markup : List Char) :
    Except Fault (List Char) :=
  let entities := Entity.extractRendered renderer.settings.linkBareDomains markup
  Entity.substitute .html (Link.entity renderer.isAddress renderer.settings resolver) entities markup

/-- The words that introduce a repeated post. -/
def repeatedLead (author : Account) : List Char :=
  "RT @".toList ++ escapeText author.name ++ [' ']

/-- The HTML of a post of this server, after `lead`. -/
def localHtml (renderer : Renderer) (withEmoji : Bool) (lead : List Char) (post : Post) :
    Except Fault (List Char) := do
  let resolver := Resolver.ofAccounts renderer.settings.localDomain post.known
  let encoded := LinkTarget.encode (lead ++ Markdown.render post.text)
  let linked ← renderer.linkMarkup resolver encoded
  let shown := renderer.showEmojiIf withEmoji post.emojis linked
  LinkTarget.decode (renderer.replaceBrackets (Layout.inParagraphs shown))

/-- The HTML of a status, empty if the text it shows is blank. -/
def statusHtml (renderer : Renderer) (withEmoji : Bool) (status : Status) :
    Except Fault (List Char) :=
  let post := status.shown
  let lead := (status.repeated.map fun repeated => repeatedLead repeated.author).getD []
  if isBlankLine post.text then .ok []
  else if post.isLocal then renderer.localHtml withEmoji lead post
  else renderer.showEmojiIf withEmoji post.emojis <$> renderer.cleanForeign post.text

/-- The HTML of a biography. -/
def noteHtml (renderer : Renderer) (withEmoji : Bool) (resolver : Resolver) (account : Account) :
    Except Fault (List Char) :=
  if account.isLocal then do
    let linked ← renderer.linkText resolver account.note
    return renderer.replaceBrackets (renderer.showEmojiIf withEmoji account.emojis linked)
  else renderer.cleanForeign account.note

/-- The HTML of a content warning. -/
def warningHtml (renderer : Renderer) (post : Post) : List Char :=
  renderer.showEmoji post.emojis (escapeText post.warning)

/-- The HTML of a display name. -/
def nameHtml (renderer : Renderer) (withEmoji : Bool) (account : Account) : List Char :=
  renderer.showEmojiIf withEmoji account.emojis (escapeText account.displayName)

end Renderer

end PostMarkup
