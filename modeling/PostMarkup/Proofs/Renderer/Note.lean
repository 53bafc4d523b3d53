import PostMarkup.Proofs.Renderer.PlainText
import PostMarkup.Proofs.Renderer.Stage

/-! # The HTML of a biography is well-formed

A biography is plain text. It is linked and laid out in paragraphs before its shortcodes and bracket
tags are replaced, so all that is written later stands in a paragraph.
-/

namespace PostMarkup

open PostMarkup.Text PostMarkup.Layout PostMarkup.Link

def noteNames : List (List Char) :=
  ["p", "br", "a", "span", "img", "u", "s", "code", "q"].map String.toList

/-- Paragraphs at top level and everything else in them, with no link in a link. The only angle brackets
of a tag are those at its ends. -/
def noteModel : ContentModel where
  tag outer tag := tag.IsCompact ∧ tag.name ∈ noteNames ∧ LinksApart outer tag ∧
    (tag.name = paragraphName ↔ outer = [])
  char outer _ := paragraphName ∈ outer

variable {outer : List (List Char)} {markup html text line linked : List Char} {tag : Tag}

/-- What may stand in a paragraph. -/
theorem noteModel_tag (inside : paragraphName ∈ outer) (compact : tag.IsCompact) (listed : tag.name ∈ noteNames)
    (other : tag.name ≠ paragraphName) (apart : LinksApart outer tag) : noteModel.tag outer tag :=
  ⟨compact, listed, apart, fun same => absurd same other, fun top => absurd inside (by simp [top])⟩

/-- Linked text on one line may stand in a paragraph. -/
theorem note_of_line (fragment : Fragment lineModel [] line) (shows : Shows line text) :
    Fragment noteModel [paragraphName] line := by
  have named (tag : Tag) (member : .tag tag ∈ pieces line) : tag.name ∈ linkNames := shows.name_of_mem_pieces member
  have known : ∀ name ∈ linkNames, name ∈ noteNames ∧ name ≠ paragraphName := by decide
  refine Nested.transport
    (fun before after => paragraphName ∈ after ∧ (linkName ∈ after → linkName ∈ before)) ?_ ?_ ?_
    (Nested.restrict fragment named) ⟨by decide, by decide⟩
  · rintro name before after ⟨inside, apart⟩
    exact ⟨List.mem_cons_of_mem _ inside, apart_grows name apart⟩
  · rintro before after c _ ⟨inside, _⟩ _
    exact inside
  · rintro before after tag ⟨inside, apart⟩ ⟨⟨carried, _, free⟩, named⟩
    obtain ⟨listed, other⟩ := known _ named
    exact noteModel_tag inside carried.compact listed other fun link member => free link (apart member)

theorem note_paragraph (fragment : Fragment noteModel [paragraphName] text) :
    Fragment noteModel [] ("<p>".toList ++ text ++ "</p>".toList) := by
  rw [paragraph_eq]
  apply Fragment.enclosed (by decide) (by decide) Attribute.ordinary_nil _ fragment
  rintro tag carried named
  refine ⟨carried.compact, ?_, ?_, iff_of_true named rfl⟩
  · rw [named]
    decide
  · intro _ member
    simp at member

/-- Linked text in flow is laid out as paragraphs. -/
theorem note_inParagraphs (fragment : Fragment postModel [] linked) (shows : Shows linked text) :
    Fragment noteModel [] (inParagraphs linked) := by
  have lines : Lines [] linked := by
    by_cases empty : linked = []
    · rw [empty]
      exact .nil
    · have fits := fits_of_mem_blocksOf (rfl : InFlow []) fragment
      rw [blocksOf_of_ignored shows.ignored empty] at fits
      exact fits (.text linked) List.mem_cons_self
  have broken : Fragment noteModel [paragraphName] lineBreak := by
    apply fragment_lineBreak
    intro tag carried named
    have facts : "br".toList ∈ noteNames ∧ "br".toList ≠ paragraphName ∧ "br".toList ≠ linkName := by decide
    exact noteModel_tag List.mem_cons_self carried.compact (named ▸ facts.1) (named ▸ facts.2.1)
      fun link => absurd (named.symm.trans link) facts.2.2
  rw [inParagraphs_of_ignored shows.ignored]
  apply Fragment.flatMap
  intro paragraph member
  apply note_paragraph
  apply fragment_joinLines broken
  intro line inside
  have among := mem_of_mem_paragraphs member inside
  obtain ⟨_, shown⟩ := shows.of_mem_linesOf line among
  exact note_of_line (fragment_of_mem_linesOf lines line among) shown

/-- Images of shortcodes may stand in every paragraph, whatever their addresses are. -/
theorem admits_note (map : EmojiImages) : Emoji.Admits noteModel map where
  compact _ _ permitted := permitted.1
  image outer shortcode url inside _ _ := by
    have clean := Emoji.imageAttributes_isClean shortcode url
    rw [Emoji.image_eq]
    apply Fragment.void
    · exact Tag.single_isWritten (by decide) clean
    · exact Tag.single_isVoid (by decide)
    · apply noteModel_tag inside (Tag.single_isCompact (by decide) clean)
      · change Markdown.imageName ∈ noteNames
        decide
      · change Markdown.imageName ≠ paragraphName
        decide
      · intro link
        exact absurd link (by decide : Markdown.imageName ≠ linkName)

theorem admitsBrackets_note : BBCode.AdmitsBrackets noteModel := by
  have facts : ∀ name ∈ BBCode.bracketNames, name ∈ noteNames ∧ name ≠ paragraphName ∧ name ≠ linkName := by
    decide
  apply BBCode.admitsBrackets_of
  · intro outer tag inside carried known
    obtain ⟨listed, other, free⟩ := facts tag.name known
    exact noteModel_tag inside carried.compact listed other fun link => absurd link free
  · intro outer name text inside known fragment
    refine Nested.transport (fun before after => paragraphName ∈ before ∧ paragraphName ∈ after ∧
      (linkName ∈ after → linkName ∈ before)) ?_ ?_ ?_ fragment
      ⟨inside, List.mem_cons_of_mem _ inside, ?_⟩
    · rintro name before after ⟨inside, inside', apart⟩
      exact ⟨List.mem_cons_of_mem _ inside, List.mem_cons_of_mem _ inside', apart_grows name apart⟩
    · rintro before after c _ ⟨_, inside, _⟩ _
      exact inside
    · rintro before after tag ⟨inside, inside', apart⟩ ⟨compact, listed, free, placed⟩
      have other : tag.name ≠ paragraphName := by
        intro same
        rw [placed.mp same] at inside
        simp at inside
      exact noteModel_tag inside' compact listed other fun link member => free link (apart member)
    · intro member
      exact (List.mem_cons.mp member).resolve_left (Ne.symm (facts name known).2.2)

namespace Renderer

/-- Linked text is a fragment of paragraphs. -/
theorem note_linkText (renderer : Renderer) {resolver : Resolver} (base : '\n' ∉ renderer.settings.baseUrl)
    (known : ∀ name account, resolver name = some account → '\n' ∉ account.username ∧ '\n' ∉ account.url)
    (text : List Char) :
    ∃ html, renderer.linkText resolver text = .ok html ∧ Fragment noteModel [] html := by
  obtain ⟨parts, proper, _, linked⟩ := renderer.exists_parts_of_linkText resolver text
  have shows := linkedText_of_parts proper fun kind slice stands =>
    (⟨shows_entity known base stands, shownFor_filled known stands⟩ :
      Shows (renderer.linkFor resolver kind slice) (shownFor resolver kind) ∧ _)
  refine ⟨_, linked, note_inParagraphs (.flatMap fun part member => ?_) shows.shows⟩
  have proper := proper part member
  cases part with
  | char c =>
    apply Fragment.of_chars
    intro d inside
    refine ⟨?_, trivial, fun _ found hosted => absurd hosted (by simp [host])⟩
    rintro rfl
    exact (not_mem_escapeChar c).1 inside
  | entity kind slice => exact fragment_entity base known (by simp) proper.onLine

/-- The HTML of every biography of this server is well-formed: each `<` starts a tag, the tags match, only
the elements of biographies occur, no link stands in a link, and exactly the paragraphs are at top level. -/
theorem noteHtml_wellFormed (settings : Settings) (sanitizer : Sanitizer) (isAddress : List Char → Bool)
    (withEmoji : Bool)
    (resolver : Resolver) (account : Account) (isLocal : account.isLocal = true) (base : '\n' ∉ settings.baseUrl)
    (known : ∀ name link, resolver name = some link → '\n' ∉ link.username ∧ '\n' ∉ link.url) :
    ∃ html, (⟨settings, sanitizer, isAddress, BBCode.render .builtin⟩ : Renderer).noteHtml withEmoji resolver account =
        .ok html ∧ Fragment noteModel [] html ∧
      ∀ before after, html = before ++ '<' :: after → ∃ tag, Tag.read? ('<' :: after) = some tag := by
  let renderer : Renderer := ⟨settings, sanitizer, isAddress, BBCode.render .builtin⟩
  obtain ⟨linked, succeeded, fragment⟩ := note_linkText renderer base known account.note
  have shown : Fragment noteModel [] (renderer.showEmojiIf withEmoji account.emojis linked) :=
    fragment_showEmojiIf withEmoji (admits_note _) fragment
  have whole : Fragment noteModel []
      (renderer.replaceBrackets (renderer.showEmojiIf withEmoji account.emojis linked)) :=
    fragment_replaceBrackets BBCode.isSound_builtin rfl admitsBrackets_note shown
  refine ⟨_, ?_, whole, fun _ _ => whole.exists_tag_of_less fun _ _ permitted => permitted.1⟩
  simp only [noteHtml, isLocal, if_true]
  change renderer.linkText resolver account.note >>= _ = _
  rw [succeeded]
  rfl

/-- Tags, brackets that cross a paragraph, a mention of a known account, and an emoji whose image has an
address of two lines. -/
theorem noteHtml_wellFormed_known :
    let bob : AccountLink := ⟨"bob".toList, "https://localhost/@bob".toList⟩
    let resolver : Resolver := fun name => if name = "bob".toList then some bob else none
    let emoji : CustomEmoji := ⟨"cat".toList, "/a\nb".toList, "/c\nd".toList⟩
    let note := "<p>[u]@bob [s]\n\nhttps://a.b/[/u] #tag :cat:</a>[/s]".toList
    let account : Account := ⟨"carol".toList, none, [], [], note, [emoji]⟩
    account.isLocal = true ∧ '\n' ∉ ({} : Settings).baseUrl ∧
      (∀ name link, resolver name = some link → '\n' ∉ link.username ∧ '\n' ∉ link.url) ∧
      ∃ html, (⟨{}, fun _ html => .ok html, Url.isAbsolute, BBCode.render .builtin⟩ : Renderer).noteHtml true
          resolver account = .ok html ∧ Fragment noteModel [] html ∧
        ∀ before after, html = before ++ '<' :: after → ∃ tag, Tag.read? ('<' :: after) = some tag := by
  intro bob resolver emoji note account
  have base : '\n' ∉ ({} : Settings).baseUrl := by decide
  have known (name : List Char) (link : AccountLink) (found : resolver name = some link) :
      '\n' ∉ link.username ∧ '\n' ∉ link.url := by
    simp only [resolver] at found
    split at found
    · cases found
      decide
    · cases found
  exact ⟨rfl, base, known, noteHtml_wellFormed {} _ Url.isAbsolute true resolver account rfl base known⟩

end Renderer

end PostMarkup
