import PostMarkup.Proofs.Entity.NarrowSign
import PostMarkup.Proofs.PlainText.Paragraph
import PostMarkup.Renderer
import PostMarkup.Url.Classify

/-! # The text of linked text

Text that is linked, laid out in paragraphs and received by another server has the same text again, if
no account is known: its lines that are not blank, with narrow signs in its hashtags and mentions.
-/

namespace PostMarkup

open PostMarkup.Text PostMarkup.Link PostMarkup.PlainText PostMarkup.Entity

namespace Link

variable {isAddress : List Char → Bool} {settings : Settings} {resolver : Resolver} {text : List Char}

theorem shows_writeSpan {cls : String} (named : '\n' ∉ cls.toList) (content : List Char) :
    Shows (AddressLabel.writeSpan cls content) content := by
  rw [writeSpan_eq]
  exact .enclosed (by decide) (by decide) (ordinary_class named) (.escaped content)

/-- The label of an address shows all of it. -/
theorem shows_label (limit : Nat) (url : List Char) : Shows (AddressLabel.ofUrl limit url).html url := by
  have whole : (AddressLabel.ofUrl limit url).lead ++ (AddressLabel.ofUrl limit url).shown ++
      (AddressLabel.ofUrl limit url).omitted = url := by
    simp only [AddressLabel.ofUrl, List.append_assoc, List.take_append_drop]
  generalize AddressLabel.ofUrl limit url = label at whole
  have named : '\n' ∉ (if label.omitted.isEmpty then "" else "ellipsis").toList := by split <;> decide
  have lead : Shows (AddressLabel.writeSpan "invisible" label.lead) label.lead :=
    shows_writeSpan (by decide) label.lead
  have omitted : Shows (AddressLabel.writeSpan "invisible" label.omitted) label.omitted :=
    shows_writeSpan (by decide) label.omitted
  rw [← whole]
  exact (lead.append (shows_writeSpan named label.shown)).append omitted

theorem shows_address (line : '\n' ∉ text) : Shows (address isAddress settings text) text := by
  rcases address_eq isAddress settings line with same | ⟨href, href', same⟩
  · rw [same]
    exact .escaped text
  · rw [same]
    exact .enclosed (by decide) (by decide) (ordinary_addressAttributes href') (shows_label _ text)

theorem shows_hashtag (base : '\n' ∉ settings.baseUrl) (tag : List Char) :
    Shows (hashtag settings tag) ('#' :: tag) := by
  rw [hashtag_eq]
  apply Shows.enclosed (by decide) (by decide) (ordinary_hashtagAttributes base _)
  have word := Shows.enclosed (by decide : Tag.isName spanName = true) (by decide) Attribute.ordinary_nil
    (.escaped tag)
  exact word.own (by decide)

theorem shows_mention {account : AccountLink} (url : '\n' ∉ account.url) :
    Shows (mention account) ('@' :: account.username) := by
  have word := Shows.enclosed (by decide : Tag.isName spanName = true) (by decide) Attribute.ordinary_nil
    (.escaped account.username)
  rw [mention_eq]
  apply Shows.enclosed (by decide) (by decide) (ordinary_class (by decide))
  exact .enclosed (by decide) (by decide) (ordinary_mentionAttributes url) (word.own (by decide))

/-- The text that is shown for an entity: its own with a narrow sign, or the name of the account that it
mentions. -/
def shownFor (resolver : Resolver) : EntityKind → List Char
  | .mention account => '@' :: ((resolver account).map AccountLink.username).getD account
  | kind => kind.narrow

theorem shownFor_of_unknown (unknown : ∀ name, resolver name = none) : shownFor resolver = EntityKind.narrow := by
  funext kind
  cases kind <;> simp [shownFor, EntityKind.narrow, unknown]

section Known

variable (known : ∀ name account, resolver name = some account → '\n' ∉ account.username ∧ '\n' ∉ account.url)
  {kind : EntityKind} {slice : List Char}

include known

/-- What is written for an entity shows its text. -/
theorem shows_entity (base : '\n' ∉ settings.baseUrl) {span : Span} (stands : kind.StandsFor slice) :
    Shows (entity isAddress settings resolver ⟨kind, span⟩ slice) (shownFor resolver kind) := by
  have reads := stands.reads
  cases kind with
  | url written =>
    obtain rfl := reads
    exact shows_address stands.line
  | hashtag tag => exact shows_hashtag base tag
  | mention account =>
    simp only [entity, shownFor]
    cases named : resolver account with
    | some person => exact shows_mention (known account person named).2
    | none => exact .own (by decide) (.escaped account)
  | markup => exact reads.elim

/-- The text that is shown for an entity is on one line and not blank. -/
theorem shownFor_filled (stands : kind.StandsFor slice) :
    '\n' ∉ shownFor resolver kind ∧ isBlankLine (shownFor resolver kind) = false := by
  have narrow := stands.narrow
  cases kind with
  | mention account =>
    refine ⟨List.not_mem_cons_of_ne_of_not_mem (by decide) ?_, rfl⟩
    cases named : resolver account with
    | some person => exact (known account person named).1
    | none => exact stands.onLine
  | _ => exact narrow

end Known

end Link

def TextPart.shownAs (shown : EntityKind → List Char) : TextPart → List Char
  | char c => [c]
  | entity kind _ => shown kind

theorem TextPart.shownAs_narrow : TextPart.shownAs EntityKind.narrow = TextPart.narrow := by
  funext part
  cases part <;> rfl

/-- Proper parts are written as text with links in it. -/
theorem linkedText_of_parts {parts : List TextPart} {write : EntityKind → List Char → List Char}
    {shown : EntityKind → List Char} (proper : ∀ part ∈ parts, part.IsProper)
    (each : ∀ kind slice, kind.StandsFor slice →
      Shows (write kind slice) (shown kind) ∧ '\n' ∉ shown kind ∧ isBlankLine (shown kind) = false) :
    LinkedText (parts.flatMap (TextPart.markup write)) (parts.flatMap (TextPart.shownAs shown)) := by
  induction parts with
  | nil => exact .nil
  | cons part rest ih =>
    obtain ⟨first, others⟩ := List.forall_mem_cons.mp proper
    cases part with
    | char c => exact .char (ih others)
    | entity kind slice =>
      obtain ⟨shows, line, filled⟩ := each kind slice first
      exact .link shows line filled (ih others)

namespace Renderer

def linkFor (renderer : Renderer) (resolver : Resolver) (kind : EntityKind) : List Char → List Char :=
  Link.entity renderer.isAddress renderer.settings resolver ⟨kind, ⟨0, 0⟩⟩

/-- Text is linked part by part and laid out in paragraphs. -/
theorem exists_parts_of_linkText (renderer : Renderer) (resolver : Resolver) (text : List Char) :
    ∃ parts : List TextPart, (∀ part ∈ parts, part.IsProper) ∧
      narrowSigns renderer.settings.linkBareDomains text = parts.flatMap TextPart.narrow ∧
      renderer.linkText resolver text =
        .ok (Layout.inParagraphs (parts.flatMap (TextPart.markup (renderer.linkFor resolver)))) := by
  obtain ⟨parts, _, proper, narrow, replaced⟩ :=
    exists_parts_of_text renderer.settings.linkBareDomains text
  have substituted : substitute .plain (Link.entity renderer.isAddress renderer.settings resolver)
      (extract .plain renderer.settings.linkBareDomains text) text = _ := replaced (renderer.linkFor resolver)
  refine ⟨parts, proper, narrow, ?_⟩
  simp only [linkText, substituted, bind, Except.bind]
  rfl

/-- Linked text is text with links in it that shows the text with narrow signs, if no account is known. -/
theorem linkedText_of_linkText (renderer : Renderer) {resolver : Resolver}
    (unknown : ∀ name, resolver name = none) (base : '\n' ∉ renderer.settings.baseUrl) (text : List Char) :
    ∃ linked, renderer.linkText resolver text = .ok (Layout.inParagraphs linked) ∧
      LinkedText linked (narrowSigns renderer.settings.linkBareDomains text) := by
  have known (name : List Char) (account : AccountLink) (found : resolver name = some account) :
      '\n' ∉ account.username ∧ '\n' ∉ account.url := by
    rw [unknown] at found
    cases found
  obtain ⟨parts, proper, narrow, linked⟩ := renderer.exists_parts_of_linkText resolver text
  refine ⟨_, linked, ?_⟩
  rw [narrow, ← TextPart.shownAs_narrow, ← shownFor_of_unknown unknown]
  exact linkedText_of_parts proper fun kind slice stands =>
    ⟨shows_entity known base stands, shownFor_filled known stands⟩

/-- A text that is linked on one server and received by another as a post has the same text again, if no
account is known: the lines that are not blank, each with a line feed after it, where only the wide signs of
hashtags and mentions have become narrow. -/
theorem plainText_linkText (renderer : Renderer) (resolver : Resolver)
    (unknown : ∀ name, resolver name = none) (base : '\n' ∉ renderer.settings.baseUrl) (text : List Char)
    (returns : '\r' ∉ text) : ∃ html, renderer.linkText resolver text = .ok html ∧
      ∀ post : Post, post.isLocal = false → post.text = html →
        post.plainText = filledLines (narrowSigns renderer.settings.linkBareDomains text) := by
  obtain ⟨linked, succeeded, shown⟩ := renderer.linkedText_of_linkText unknown base text
  refine ⟨_, succeeded, ?_⟩
  rintro post foreign written
  rw [Post.plainText, if_neg (by simp [foreign]), written]
  exact ofHtml_inParagraphs shown (return_not_mem_narrowSigns returns)

/-- A hashtag and a mention with wide signs, an address that holds a reference, and a tag. -/
theorem plainText_linkText_wide :
    let renderer : Renderer := ⟨{}, fun _ html => .ok html, Url.isAbsolute, BBCode.render .builtin⟩
    let text := "＃ab https://a.b/&lt;\n \n＠c <b>".toList
    (∀ name, Resolver.knowsNone name = none) ∧ '\n' ∉ renderer.settings.baseUrl ∧ '\r' ∉ text ∧
      ∃ html, renderer.linkText .knowsNone text = .ok html ∧
        ∀ post : Post, post.isLocal = false → post.text = html →
          post.plainText = "#ab https://a.b/&lt;\n@c <b>\n".toList := by
  intro renderer text
  have base : '\n' ∉ renderer.settings.baseUrl := by decide
  have returns : '\r' ∉ text := by decide
  have narrow : filledLines (narrowSigns false text) = "#ab https://a.b/&lt;\n@c <b>\n".toList := by
    rw [narrowSigns, extract_eq_scan]
    decide +kernel
  rw [← narrow]
  exact ⟨fun _ => rfl, base, returns, plainText_linkText renderer .knowsNone (fun _ => rfl) base text returns⟩

end Renderer

end PostMarkup
