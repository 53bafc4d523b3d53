import PostMarkup.Proofs.Markdown.LinkLine
import PostMarkup.Proofs.Renderer.WellFormed

/-! # A post that is one link

While its address is held, a link is one element, which linking leaves alone. Shortcodes are replaced in
its label only, nothing in it starts a block, and no bracket stands outside its tags. So its address
comes back as it was typed.
-/

namespace PostMarkup

open PostMarkup.Text PostMarkup.LinkTarget PostMarkup.Markdown PostMarkup.Layout

variable {outer : List (List Char)} {label url content : List Char} {target : Target} {map : EmojiImages}

/-- Text on one line without brackets, with images in it that have no marker. -/
def labelModel : ContentModel where
  tag _ tag := tag.IsPlain ∧ isMarked tag.source = false ∧ tag.name = imageName
  char _ c := c ≠ '\n' ∧ c ≠ '['

theorem fragment_escapedLabel (plain : IsPlainLabel label) : Fragment labelModel outer (escapeText label) := by
  have line : '\n' ∉ label := fun member => plain _ member (by decide)
  have bracket : '[' ∉ label := fun member => plain _ member (by decide)
  apply Fragment.of_chars
  intro c member
  refine ⟨?_, ?_, ?_⟩
  · rintro rfl
    exact (not_mem_escapeText label).1 member
  · rintro rfl
    exact line (mem_of_mem_escapeText member (by decide) (by decide))
  · rintro rfl
    exact bracket (mem_of_mem_escapeText member (by decide) (by decide))

/-- Images may stand in labels if their addresses stand on one line each. -/
theorem admits_label (lines : ∀ shortcode url, map.get? shortcode = some url → '\n' ∉ url) :
    Emoji.Admits labelModel map where
  compact _ _ permitted := permitted.1.isCompact
  image outer shortcode url _ code found := by
    have line : '\n' ∉ shortcode := fun member => (code _ member).1 rfl
    have given := Emoji.ordinary_imageAttributes line (lines shortcode url found)
    have named : Tag.isName imageName = true := by decide
    have plain : (Tag.single imageName (Emoji.imageAttributes shortcode url)).IsPlain :=
      .single named fun entry member => (given entry member).1
    rw [Emoji.image_eq]
    exact .void plain.isWritten (Tag.single_isVoid (by decide)) ⟨plain, (Tag.isMarked_ordinary named given).2, rfl⟩

/-- Images may stand in links while addresses are held. -/
theorem post_of_label (fragment : Fragment labelModel outer content) : Fragment postModel outer content := by
  have image : imageName ∈ inlineNames ∧ imageName ≠ linkName := by decide
  apply fragment.mono
  · rintro outer c _ ⟨line, _⟩
    exact flow_char_of_ne trivial line
  · rintro outer tag ⟨plain, unmarked, named⟩
    exact Fragment.postModel_tag (plain.isCarried unmarked) (named ▸ image.1)
      fun link => absurd (named.symm.trans link) image.2

/-- Nothing in a label is changed where marked tags are changed only. -/
theorem map_rewrite_label {write : Tag → List Char}
    (same : ∀ tag, isMarked tag.source = false → write tag = tag.source)
    (fragment : Fragment labelModel outer content) : (pieces content).map (Piece.rewrite write) = pieces content := by
  apply Piece.map_rewrite_eq
  intro tag member
  obtain ⟨_, _, unmarked, _⟩ := Nested.exists_permitted fragment member
  exact same tag unmarked

def heldLink (target : Target) (content : List Char) : List Piece :=
  elementPieces (held (target.linkTag [mark])) (pieces content) (.stop linkName)

/-- A link whose address is held is one element. -/
theorem isElement_held (sound : target.Sound) (fragment : Fragment labelModel [linkName] content) :
    IsElement postModel [] linkName (heldLink target content) := by
  have rendered : RenderedTag (target.linkTag [mark]) := .link sound
  have facts : linkName ∈ inlineNames ∧ linkName ∉ voidNames := by decide
  have opens : (target.linkTag [mark]).Opens := Tag.opening_opens facts.2 fun entry member =>
    (Target.linkAttributes_isEscaped sound mark_isEscaped entry member).isClean
  have placed (tag : Tag) (carried : tag.IsCarried) (named : tag.name = linkName) : postModel.tag [] tag :=
    Fragment.postModel_tag carried (named ▸ facts.1) fun _ => by simp
  have inside : Nested postModel [linkName] (pieces content) := post_of_label fragment
  exact .normal (held_of_rendered rendered).1 (Tag.stop_isWritten (by decide)) opens rfl rfl
    (placed _ (held_isCarried rendered) rfl) (placed _ (Tag.stop_isCarried (by decide)) rfl) inside

/-- The address of a rendered link is held. -/
theorem encode_link (sound : target.Sound) (fragment : Fragment labelModel outer content) :
    encode ((target.linkTag [mark]).source ++ (content ++ (Tag.stop linkName).source)) =
      sourceOf (heldLink target content) := by
  have first : (target.linkTag [mark]).IsPlain := (RenderedTag.link sound).isPlain
  have last : (Tag.stop linkName).IsPlain := .stop (by decide)
  have inner : ∀ part ∈ pieces content, part.IsCompact :=
    fragment.isCompact fun _ _ permitted => permitted.1.isCompact
  have compact : ∀ part ∈ elementPieces (target.linkTag [mark]) (pieces content) (.stop linkName), part.IsCompact :=
    forall_mem_elementPieces.mpr ⟨first.isCompact, inner, last.isCompact⟩
  have same : (pieces content).map (Piece.rewrite heldSource) = pieces content :=
    map_rewrite_label (fun _ plain => (decodeTag_of_not_marked plain).1) fragment
  have kept : heldSource (.stop linkName) = (Tag.stop linkName).source :=
    (decodeTag_of_not_marked (isMarked_stop (by decide))).1
  have encoded := encode_sourceOf compact
  rw [sourceOf_elementPieces, source_pieces, map_rewrite_elementPieces, same, kept] at encoded
  exact encoded

/-- A link with a label is one line. -/
theorem newline_not_mem_link (sound : target.Sound) (fragment : Fragment labelModel outer content) :
    '\n' ∉ sourceOf (heldLink target content) := by
  have label : '\n' ∉ content := fragment.not_mem (fun _ permitted => permitted.1 rfl) fun _ _ permitted =>
    permitted.1.newline_not_mem
  have last : '\n' ∉ (Tag.stop linkName).source := by decide
  rw [heldLink, sourceOf_elementPieces, source_pieces]
  exact List.not_mem_append (held_of_rendered (.link sound)).2.1 (List.not_mem_append label last)

/-- The pieces of a paragraph of one link while its address is held. -/
def heldParagraph (target : Target) (content : List Char) : List Piece :=
  elementPieces (.opening paragraphName []) (heldLink target content) (.stop paragraphName)

/-- A link with a label becomes a paragraph. -/
theorem inParagraphs_link (sound : target.Sound) (fragment : Fragment labelModel [linkName] content) :
    inParagraphs (sourceOf (heldLink target content)) =
      sourceOf (heldParagraph target content) := by
  have ignored : ∀ tag : Tag, tag.name = linkName ∨ tag.name = imageName → blockElements.Ignores tag := by
    have names : ∀ name ∈ [linkName, imageName],
        blockElements.isVoid name = false ∧ blockElements.isNormal name = false := by decide
    intro tag named
    exact .inr (names _ (by simpa using named))
  have inner : ∀ part ∈ pieces content, ∀ tag, part = .tag tag → blockElements.Ignores tag := by
    rintro part member tag rfl
    obtain ⟨_, _, _, named⟩ := Nested.exists_permitted fragment member
    exact ignored tag (.inr named)
  have each : ∀ part ∈ heldLink target content, ∀ tag, part = .tag tag →
      blockElements.Ignores tag := by
    refine forall_mem_elementPieces.mpr ⟨?_, inner, ?_⟩
    · rintro _ ⟨⟩
      exact ignored _ (.inl rfl)
    · rintro _ ⟨⟩
      exact ignored _ (.inl rfl)
  obtain ⟨rest, source⟩ := (held_of_rendered (.link sound)).1.eq_cons
  rw [inParagraphs_of_ignored, wrap_line (newline_not_mem_link sound fragment)]
  · rw [paragraph_eq, heldParagraph, sourceOf_elementPieces]
  · rw [heldLink, sourceOf_elementPieces, source]
    rfl
  · rw [(isElement_held sound fragment).nested.pieces_sourceOf]
    exact fun tag member => each _ member tag rfl

theorem pieces_heldParagraph (sound : target.Sound) (fragment : Fragment labelModel [linkName] content) :
    pieces (sourceOf (heldParagraph target content)) = heldParagraph target content := by
  have first : (Tag.opening paragraphName []).IsWritten := Tag.opening_isWritten (by decide) (by simp)
  have last : (Tag.stop paragraphName).IsWritten := Tag.stop_isWritten (by decide)
  have written : ∀ part ∈ heldParagraph target content, part.IsWritten :=
    forall_mem_elementPieces.mpr ⟨first, (isElement_held sound fragment).nested.isWritten, last⟩
  simpa using pieces_sourceOf_append written []

theorem fragment_heldParagraph (sound : target.Sound) (fragment : Fragment labelModel [linkName] content) :
    Fragment shownModel [] (sourceOf (heldParagraph target content)) := by
  rw [← inParagraphs_link sound fragment]
  exact shown_of_laid (fragment_inParagraphs rfl (.of_nested (isElement_held sound fragment).nested))

/-- No bracket stands outside the tags of a link. -/
theorem bracket_not_mem_heldParagraph (fragment : Fragment labelModel [linkName] content) :
    .char '[' ∉ heldParagraph target content := by
  have inner : ∀ part ∈ pieces content, part ≠ .char '[' := by
    rintro part member rfl
    obtain ⟨_, _, other⟩ := Nested.exists_permits fragment _ member
    exact other rfl
  have all : ∀ part ∈ heldParagraph target content, part ≠ .char '[' :=
    forall_mem_elementPieces.mpr ⟨by simp, forall_mem_elementPieces.mpr ⟨by simp, inner, by simp⟩, by simp⟩
  exact fun member => all _ member rfl

/-- A link in a paragraph is decoded to one with its address as it was typed. -/
theorem decode_heldParagraph (sound : target.Sound) (clear : misleads target = false)
    (fragment : Fragment labelModel [linkName] content) : decode (sourceOf (heldParagraph target content)) =
      .ok ((Tag.opening paragraphName []).source ++ ((target.linkTag []).source ++
        (content ++ (Tag.stop linkName).source) ++ (Tag.stop paragraphName).source)) := by
  have kept (tag : Tag) (plain : isMarked tag.source = false) : decodedSource tag = tag.source := by
    rw [decodedSource, decodeTag, plain, if_neg Bool.false_ne_true]
    rfl
  have restored : decodedSource (held (target.linkTag [mark])) = (target.linkTag []).source := by
    rw [decodedSource, held, decodeTag_link clear]
    rfl
  have opening := (Tag.isMarked_ordinary (by decide : Tag.isName paragraphName = true) Attribute.ordinary_nil).1
  rw [decode_shown (fragment_heldParagraph sound fragment), pieces_heldParagraph sound fragment, heldParagraph,
    heldLink, map_rewrite_elementPieces, map_rewrite_elementPieces, map_rewrite_label kept fragment,
    kept _ opening, kept _ (isMarked_stop (by decide)), kept _ (isMarked_stop (by decide)), restored,
    sourceOf_elementPieces, sourceOf_elementPieces, source_pieces]

namespace Renderer

variable {renderer : Renderer}

/-- Only the label of a link is searched for shortcodes. -/
theorem showEmojiIf_link (wanted : Bool) (emojis : List CustomEmoji) (label : List Char) (sound : target.Sound) :
    renderer.showEmojiIf wanted emojis (sourceOf (heldLink target (escapeText label))) =
      sourceOf (heldLink target (renderer.showEmojiIf wanted emojis (escapeText label))) := by
  have visible : (held (target.linkTag [mark])).source ≠ Emoji.hiddenRegionTag := by
    have source : (held (target.linkTag [mark])).source = _ := (heldSource_link target).trans linkText_eq
    rw [source]
    intro same
    have second : Emoji.hiddenRegionTag[1]? = some 'a' := by
      rw [← same]
      rfl
    exact absurd second (by decide)
  have last : (Tag.stop linkName).IsCompact := Tag.stop_isCompact (by decide)
  unfold showEmojiIf
  split
  · rw [heldLink, heldLink, sourceOf_elementPieces, sourceOf_elementPieces, source_pieces, source_pieces]
    exact Emoji.replace_between (held_isCompact (.link sound)) last visible (not_mem_escapeText label).1
  · rfl

/-- A post of a sound link. -/
theorem localHtml_link (renderer : Renderer) {table : BBCode.Table} (given : renderer.brackets = BBCode.render table)
    (withEmoji : Bool) {post : Post} (sound : target.Sound) (clear : misleads target = false)
    (plain : IsPlainLabel target.label)
    (written : Markdown.render post.text = target.writeLink)
    (lines : ∀ emoji ∈ post.emojis, '\n' ∉ emoji.url ∧ '\n' ∉ emoji.stillUrl) :
    renderer.localHtml withEmoji [] post = .ok ((Tag.opening paragraphName []).source ++ ((target.linkTag []).source ++
      (renderer.showEmojiIf withEmoji post.emojis (escapeText target.label) ++ (Tag.stop linkName).source) ++
        (Tag.stop paragraphName).source)) := by
  have typed : Fragment labelModel [linkName] (escapeText target.label) := fragment_escapedLabel plain
  have label : Fragment labelModel [linkName]
      (renderer.showEmojiIf withEmoji post.emojis (escapeText target.label)) := by
    apply fragment_showEmojiIf withEmoji _ typed
    apply admits_label
    intro shortcode url found
    obtain ⟨emoji, listed, _, image⟩ := Emoji.exists_of_get?_ofEmojis found
    rcases image with rfl | rfl
    · exact (lines emoji listed).1
    · exact (lines emoji listed).2
  have held : heldMarkup [] post = sourceOf (heldLink target (escapeText target.label)) := by
    rw [heldMarkup, List.nil_append, written, Target.writeLink_eq, encode_link sound typed]
  have known : Entity.finishedElements.Knows linkName := by
    unfold ElementNames.Knows
    decide
  have ready : renderer.readyMarkup withEmoji [] post = .ok (sourceOf (heldParagraph target
      (renderer.showEmojiIf withEmoji post.emojis (escapeText target.label)))) := by
    simp only [readyMarkup, held, linkMarkup_of_element (isElement_held sound typed) known, bind, Except.bind,
      showEmojiIf_link withEmoji post.emojis target.label sound, inParagraphs_link sound label]
    rw [replaceBrackets_eq given (fragment_heldParagraph sound label)]
    · rfl
    · rw [pieces_heldParagraph sound label]
      exact bracket_not_mem_heldParagraph label
  rw [localHtml_eq, ready]
  exact decode_heldParagraph sound clear label

/-- A post of one link is a paragraph of this link. Its address is the one that was typed, and of its label
only shortcodes are replaced. -/
theorem statusHtml_linkLine (settings : Settings) (sanitizer : Sanitizer) (isAddress : List Char → Bool)
    (table : BBCode.Table) (withEmoji : Bool)
    (post : Post) (isLocal : post.isLocal = true) (text : post.text = linkLine label url) (plain : IsPlainLabel label)
    (address : IsPlainUrl url) (lines : ∀ emoji ∈ post.emojis, '\n' ∉ emoji.url ∧ '\n' ∉ emoji.stillUrl) :
    let renderer : Renderer := ⟨settings, sanitizer, isAddress, BBCode.render table⟩
    renderer.statusHtml withEmoji ⟨post, none⟩ = .ok ("<p><a href=\"".toList ++ escapeAttribute url ++
      "\" target=\"_blank\" rel=\"nofollow noopener noreferrer\">".toList ++
      renderer.showEmojiIf withEmoji post.emojis (escapeText label) ++ "</a></p>".toList) := by
  intro renderer
  let target : Target := ⟨url, label, none⟩
  have sound : target.Sound := by
    refine ⟨address.isLinkable, fun c member => (address.solid c member).1, ?_, ?_, by simp [target]⟩
    · exact fun member => absurd (address.solid _ member).1 (by decide)
    · exact fun member => plain _ member (by decide)
  have source : (target.linkTag []).source = "<a href=\"".toList ++ escapeAttribute url ++
      "\" target=\"_blank\" rel=\"nofollow noopener noreferrer\">".toList := by
    have ends : '"' :: (Attribute.written [] ++ (" target=".toList ++ '"' :: ("_blank".toList ++ '"' ::
        ((Attribute.escaped "rel" linkRelation).source ++ ['>'])))) =
          "\" target=\"_blank\" rel=\"nofollow noopener noreferrer\">".toList := by decide
    rw [(linkTag_source target).2, ← ends]
    rfl
  have tags : (Tag.opening paragraphName []).source = "<p>".toList ∧ (Tag.stop linkName).source = "</a>".toList ∧
      (Tag.stop paragraphName).source = "</p>".toList := by decide
  have filled : isBlankLine (linkLine label url) = false := by
    rw [linkLine_eq]
    rfl
  have html := localHtml_link renderer rfl withEmoji sound rfl plain (text ▸ render_linkLine plain address) lines
  have shown : renderer.statusHtml withEmoji ⟨post, none⟩ = renderer.localHtml withEmoji [] post := by
    simp [statusHtml, Status.shown, text, filled, isLocal]
  rw [shown, html, source, tags.1, tags.2.1, tags.2.2]
  simp [target]

/-- An address with bracket tags, a hashtag, a mention, a shortcode, a percent sign and a tag in it. -/
theorem statusHtml_linkLine_busy :
    let author := Account.onThisServer "bob".toList "https://localhost/@bob".toList
    let url := "HTTPS://a.b/[u]#tag/@bob:cat:%5B\"&<i>[/u]".toList
    let label := "#x :cat: <i>".toList
    let cat : CustomEmoji := ⟨"cat".toList, "/cat.gif".toList, "/[u].png".toList⟩
    let post : Post := ⟨linkLine label url, [], true, author, [author], [cat]⟩
    let renderer : Renderer := ⟨{}, fun _ html => .ok html, Url.isAbsolute, BBCode.render .builtin⟩
    IsPlainLabel label ∧ IsPlainUrl url ∧ (∀ emoji ∈ post.emojis, '\n' ∉ emoji.url ∧ '\n' ∉ emoji.stillUrl) ∧
      renderer.statusHtml true ⟨post, none⟩ = .ok ("<p><a href=\"".toList ++
        "HTTPS://a.b/[u]#tag/@bob:cat:%5B&quot;&amp;&lt;i&gt;[/u]".toList ++
        "\" target=\"_blank\" rel=\"nofollow noopener noreferrer\">#x ".toList ++
        Emoji.image "cat".toList "/[u].png".toList ++ " &lt;i&gt;</a></p>".toList) := by
  intro author url label cat post renderer
  have plain : IsPlainLabel label := by
    unfold IsPlainLabel
    decide
  have address : IsPlainUrl url := ⟨⟨"https://".toList, by decide, by decide, by decide⟩, by decide⟩
  have lines : ∀ emoji ∈ post.emojis, '\n' ∉ emoji.url ∧ '\n' ∉ emoji.stillUrl := by decide
  have html := statusHtml_linkLine {} (fun _ html => .ok html) Url.isAbsolute .builtin true post rfl rfl plain address
    lines
  refine ⟨plain, address, lines, html.trans ?_⟩
  decide +kernel

end Renderer

end PostMarkup
