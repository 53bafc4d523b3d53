import PostMarkup.Proofs.Layout.Nested
import PostMarkup.Proofs.Renderer.Linked
import PostMarkup.Url.Classify
import PostMarkup.Proofs.Renderer.Stage

/-! # The HTML of a post is well-formed

Every stage takes a fragment to a fragment: links and emoji go into text on one line, layout cuts at
line feeds and at the ends of blocks, bracket tags enclose what is nested already, and decoding
changes tags only.
-/

namespace PostMarkup

open PostMarkup.LinkTarget PostMarkup.Markdown PostMarkup.Layout

def statusNames : List (List Char) :=
  ["p", "br", "a", "span", "img", "h1", "h2", "h3", "h4", "h5", "h6", "em", "strong", "s", "sup", "u",
    "mark", "code", "pre", "ul", "ol", "li", "blockquote", "hr", "q"].map String.toList

/-- Carried tags of a post, with no link in a link. -/
def shownModel : ContentModel where
  tag outer tag := tag.IsCarried ∧ tag.name ∈ statusNames ∧ LinksApart outer tag
  char _ _ := True

/-- The tags of a post whose only angle brackets are those at their ends, with no link in a link. -/
def statusModel : ContentModel where
  tag outer tag := tag.IsCompact ∧ tag.name ∈ statusNames ∧ LinksApart outer tag
  char _ _ := True

variable {outer : List (List Char)} {markup html text : List Char} {parts : List Piece}

theorem Fragment.read?_of_less (fragment : Fragment statusModel outer html) {before after : List Char}
    (split : html = before ++ '<' :: after) : ∃ tag, Tag.read? ('<' :: after) = some tag :=
  fragment.exists_tag_of_less (fun _ _ permitted => permitted.1) split

/-- Paragraphs and blocks are parts of a post that is shown. -/
theorem shown_of_laid (fragment : Fragment laidModel outer markup) : Fragment shownModel outer markup := by
  have listed : ∀ name ∈ quoteName :: paragraphName :: (inlineNames ++ blockNames ++ listNames),
      name ∈ statusNames := by decide
  apply Fragment.mono ?_ ?_ fragment
  · rintro outer c _ permitted
    trivial
  · rintro outer tag ⟨carried, apart, placed⟩
    refine ⟨carried, listed _ ?_, apart⟩
    cases around : host outer with
    | none =>
      simp only [around] at placed
      rcases placed with block | quote | paragraph
      · simp [block]
      · simp [quote]
      · simp [paragraph]
    | some found =>
      simp only [around] at placed
      rcases placed with inline | ⟨_, list⟩
      · simp [inline]
      · simp [list]

/-- Bracket tags may stand anywhere in a post. -/
theorem admitsBrackets_shown : BBCode.AdmitsBrackets shownModel := by
  have facts : ∀ name ∈ BBCode.bracketNames, name ≠ linkName ∧ name ∈ statusNames := by decide
  apply BBCode.admitsBrackets_of
  · intro outer tag _ carried known
    obtain ⟨other, listed⟩ := facts tag.name known
    exact ⟨carried, listed, fun link => absurd link other⟩
  · intro outer name text _ known fragment
    refine Nested.transport (fun before after => linkName ∈ after → linkName ∈ before) ?_ ?_ ?_ fragment ?_
    · intro name before after apart
      exact apart_grows name apart
    · intro before after c _ _ permitted
      exact permitted
    · rintro before after tag apart ⟨carried, listed, free⟩
      exact ⟨carried, listed, fun link member => free link (apart member)⟩
    · intro member
      exact (List.mem_cons.mp member).resolve_left (Ne.symm (facts name known).1)

/-- What decoding makes of a carried tag. -/
def decodedSource (tag : Tag) : List Char := (decodeTag tag.source).toOption.getD []

theorem decodedSource_of_isCarried {tag : Tag} (carried : tag.IsCarried) :
    decodeTag tag.source = .ok (decodedSource tag) ∧
      Tag.IsWritten { tag with source := decodedSource tag } ∧
        Tag.IsCompact { tag with source := decodedSource tag } := by
  obtain ⟨source, decoded, written, compact⟩ := carried.restored
  have same : decodedSource tag = source := by
    rw [decodedSource, decoded]
    rfl
  rw [same]
  exact ⟨decoded, written, compact⟩

/-- A post is decoded tag by tag. -/
theorem decode_shown (fragment : Fragment shownModel outer markup) :
    decode markup = .ok (sourceOf ((pieces markup).map (Piece.rewrite decodedSource))) := by
  conv => lhs; rw [← source_pieces markup]
  apply decode_sourceOf (fragment.isCompact fun _ _ permitted => permitted.1.compact)
  intro tag member
  obtain ⟨_, carried, _⟩ := Nested.exists_permitted fragment member
  exact (decodedSource_of_isCarried carried).1

/-- A post that is decoded is a fragment of tags without others in them. -/
theorem fragment_decode (fragment : Fragment shownModel outer markup) :
    ∃ html, decode markup = .ok html ∧ Fragment statusModel outer html := by
  refine ⟨_, decode_shown fragment, .of_nested ?_⟩
  refine Nested.rewrite decodedSource (· = ·) ?_ ?_ ?_ fragment rfl
  · rintro name outer _ rfl
    rfl
  · rintro outer _ c _ rfl permitted
    trivial
  · rintro outer _ tag rfl _ ⟨carried, listed, apart⟩
    obtain ⟨_, written, compact⟩ := decodedSource_of_isCarried carried
    exact ⟨written, compact, listed, apart⟩

namespace Renderer

variable {renderer : Renderer}

/-- The words before a repeated post. -/
theorem rendered_repeatedLead (author : Account) : RenderedFragment [] (repeatedLead author) := by
  have words : escapeText "RT @".toList = "RT @".toList := by decide
  have blank : escapeText [' '] = [' '] := by decide
  have whole : repeatedLead author = escapeText ("RT @".toList ++ author.name ++ [' ']) := by
    rw [escapeText_append, escapeText_append, words, blank]
    rfl
  rw [whole]
  exact .escaped fun _ found inside => absurd inside (by simp [host])

/-- Whether the names and addresses that a post and its settings supply stand on one line each. -/
structure OnLines (settings : Settings) (post : Post) : Prop where
  base : '\n' ∉ settings.baseUrl
  accounts : ∀ account ∈ post.known, '\n' ∉ account.username ∧ '\n' ∉ account.url
  emojis : ∀ emoji ∈ post.emojis,
    '\n' ∉ emoji.shortcode ∧ '\n' ∉ emoji.url ∧ '\n' ∉ emoji.stillUrl

/-- The markup of a post in which links are looked for: its link targets are held. -/
def heldMarkup (lead : List Char) (post : Post) : List Char := encode (lead ++ Markdown.render post.text)

/-- The markup of a post before its link targets are restored. -/
def readyMarkup (renderer : Renderer) (withEmoji : Bool) (lead : List Char) (post : Post) :
    Except Fault (List Char) := do
  let resolver := Resolver.ofAccounts renderer.settings.localDomain post.known
  let linked ← renderer.linkMarkup resolver (heldMarkup lead post)
  let shown := renderer.showEmojiIf withEmoji post.emojis linked
  return renderer.replaceBrackets (inParagraphs shown)

theorem localHtml_eq (withEmoji : Bool) (lead : List Char) (post : Post) :
    renderer.localHtml withEmoji lead post = renderer.readyMarkup withEmoji lead post >>= decode := by
  simp only [localHtml, readyMarkup, heldMarkup, bind_assoc, pure_bind]

theorem fragment_readyMarkup {table : BBCode.Table} {lead : List Char} {post : Post}
    (sound : table.IsSound) (given : renderer.brackets = BBCode.render table)
    (lines : OnLines renderer.settings post) (before : RenderedFragment [] lead) (withEmoji : Bool) :
    ∃ ready, renderer.readyMarkup withEmoji lead post = .ok ready ∧ Fragment shownModel [] ready := by
  have known (name : List Char) (account : AccountLink)
      (found : Resolver.ofAccounts renderer.settings.localDomain post.known name = some account) :
      '\n' ∉ account.username ∧ '\n' ∉ account.url := by
    obtain ⟨listed, member, rfl⟩ := Option.map_eq_some_iff.mp found
    exact lines.accounts listed (List.mem_of_find?_eq_some member)
  obtain ⟨linked, succeeded, fragment⟩ :=
    fragment_linkMarkup (before.append (rendered_render post.text)) lines.base known
  have shown : Fragment postModel [] (renderer.showEmojiIf withEmoji post.emojis linked) :=
    fragment_showEmojiIf withEmoji (Emoji.onLines_ofEmojis _ lines.emojis).admits fragment
  have laid : Fragment shownModel [] (inParagraphs (renderer.showEmojiIf withEmoji post.emojis linked)) :=
    shown_of_laid (fragment_inParagraphs rfl shown)
  refine ⟨_, ?_, fragment_replaceBrackets sound given admitsBrackets_shown laid⟩
  simp only [readyMarkup, heldMarkup, bind, Except.bind, succeeded]
  rfl

theorem fragment_localHtml {table : BBCode.Table} {lead : List Char} {post : Post}
    (sound : table.IsSound) (given : renderer.brackets = BBCode.render table)
    (lines : OnLines renderer.settings post) (before : RenderedFragment [] lead) (withEmoji : Bool) :
    ∃ html, renderer.localHtml withEmoji lead post = .ok html ∧ Fragment statusModel [] html := by
  obtain ⟨ready, succeeded, fragment⟩ := fragment_readyMarkup sound given lines before withEmoji
  obtain ⟨html, decoded, whole⟩ := fragment_decode fragment
  exact ⟨html, by rw [localHtml_eq, succeeded]; exact decoded, whole⟩

/-- The HTML of every post of this server is well-formed: each `<` starts a tag, the tags match, only
the elements of posts occur, and no link stands in a link. -/
theorem statusHtml_wellFormed (settings : Settings) (sanitizer : Sanitizer) (isAddress : List Char → Bool)
    (withEmoji : Bool)
    (status : Status) (isLocal : status.shown.isLocal = true) (lines : OnLines settings status.shown) :
    ∃ html, (⟨settings, sanitizer, isAddress, BBCode.render .builtin⟩ : Renderer).statusHtml withEmoji status =
        .ok html ∧ Fragment statusModel [] html ∧
      ∀ before after, html = before ++ '<' :: after → ∃ tag, Tag.read? ('<' :: after) = some tag := by
  have rendered : ∃ html, (⟨settings, sanitizer, isAddress, BBCode.render .builtin⟩ : Renderer).statusHtml
      withEmoji status = .ok html ∧ Fragment statusModel [] html := by
    unfold statusHtml
    simp only [isLocal, if_true]
    split
    · exact ⟨[], rfl, .nil⟩
    · apply fragment_localHtml BBCode.isSound_builtin rfl lines
      cases status.repeated with
      | none => exact .nil
      | some repeated => exact rendered_repeatedLead repeated.author
  obtain ⟨html, succeeded, fragment⟩ := rendered
  exact ⟨html, succeeded, fragment, fun _ _ => fragment.read?_of_less⟩

/-- A repeated post with a mention and an emoji between brackets. -/
theorem statusHtml_wellFormed_repeated :
    let author := Account.onThisServer "bob".toList "https://localhost/@bob".toList
    let emoji : CustomEmoji := ⟨"cat".toList, "/cat.gif".toList, "/cat.png".toList⟩
    let post : Post := ⟨"> [u]*hi* @bob\n\n:cat:[/u]".toList, [], true, author, [], [emoji]⟩
    OnLines {} post ∧
      ∃ html, (⟨{}, fun _ html => .ok html, Url.isAbsolute, BBCode.render .builtin⟩ : Renderer).statusHtml true
          ⟨post, some post⟩ = .ok html ∧ Fragment statusModel [] html ∧
        ∀ before after, html = before ++ '<' :: after →
          ∃ tag, Tag.read? ('<' :: after) = some tag := by
  intro author emoji post
  have lines : OnLines {} post := by
    constructor
    · decide
    · decide
    · decide
  exact ⟨lines, statusHtml_wellFormed {} _ Url.isAbsolute true ⟨post, some post⟩ rfl lines⟩

end Renderer

end PostMarkup
