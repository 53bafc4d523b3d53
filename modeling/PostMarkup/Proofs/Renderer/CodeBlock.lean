import PostMarkup.Proofs.Markdown.FencedCode
import PostMarkup.Proofs.Renderer.WellFormed

/-! # A post that is one code block

No stage after Markdown changes a code block: its tags have no marker, linking and layout leave a
preformatted element alone, and no bracket in it is read. So the lines of a fenced block are shown as they
were typed.
-/

namespace PostMarkup

open PostMarkup.Text PostMarkup.LinkTarget PostMarkup.Markdown PostMarkup.Layout

variable {model : ContentModel} {parts : List Piece} {language : Option (List Char)}

/-- Tags without the marker, and brackets in preformatted text and code only. -/
def codeModel : ContentModel where
  tag _ tag := tag.IsCompact ∧ isMarked tag.source = false
  char outer c := c = '[' → ∃ name ∈ outer, name ∈ BBCode.State.copiedElements

def codePieces (language : Option (List Char)) (content : List Char) : List Piece :=
  elementPieces (.opening "pre".toList [])
    (elementPieces (codeTag language) (pieces (escapeText content)) (.stop "code".toList)) (.stop "pre".toList)

theorem sourceOf_codePieces (language : Option (List Char)) (lines : List (List Char)) :
    sourceOf (codePieces language (joinWith '\n' lines)) = Block.html (.code language lines) := by
  rw [html_code, codePieces, sourceOf_elementPieces, sourceOf_elementPieces, source_pieces]
  simp [writeElement, Tag.opening, Tag.start, Tag.stop]

/-- A code block is one element. -/
theorem isElement_codePieces (line : ∀ word ∈ language, '\n' ∉ word) (content : List Char) :
    IsElement codeModel [] "pre".toList (codePieces language content) := by
  obtain ⟨rendered, opens⟩ := codeTag_rendered line
  have label : Attribute.Ordinary (language.toList.map fun word => .escaped "class" ("language-".toList ++ word)) := by
    cases language with
    | none => exact Attribute.ordinary_nil
    | some word =>
      have plain : '\n' ∉ "language-".toList ++ word := by simpa using line word rfl
      exact Attribute.ordinary_cons (by decide) (by decide) plain Attribute.ordinary_nil
  have opening (outer : List (List Char)) {name : List Char} {attributes : List Attribute}
      (named : Tag.isName name = true) (given : Attribute.Ordinary attributes) :
      codeModel.tag outer (.opening name attributes) :=
    ⟨(Tag.opening_isCarried named given).compact, (Tag.isMarked_ordinary named given).1⟩
  have stop (outer : List (List Char)) {name : List Char} (named : Tag.isName name = true) :
      codeModel.tag outer (.stop name) := ⟨Tag.stop_isCompact named, isMarked_stop named⟩
  have text : Fragment codeModel ["code".toList, "pre".toList] (escapeText content) := by
    refine .of_chars fun c member => ⟨?_, fun _ => ⟨"pre".toList, by simp, by decide⟩⟩
    rintro rfl
    exact (not_mem_escapeText content).1 member
  have inside : Nested codeModel ["pre".toList]
      (elementPieces (codeTag language) (pieces (escapeText content)) (.stop "code".toList)) :=
    .element rendered.isPlain.isWritten (Tag.stop_isWritten (by decide)) opens rfl rfl (opening _ (by decide) label)
      (stop _ (by decide)) text .nil
  exact .normal (Tag.opening_isWritten (by decide) (by simp)) (Tag.stop_isWritten (by decide))
    (opening_nil_opens (by decide)) rfl rfl (opening _ (by decide) Attribute.ordinary_nil) (stop _ (by decide)) inside

/-- A preformatted element is laid out as it is. -/
theorem inParagraphs_preformatted (element : IsElement model [] "pre".toList parts) :
    inParagraphs (sourceOf parts) = sourceOf parts := by
  have known : blockElements.Knows "pre".toList := by
    unfold ElementNames.Knows
    decide
  have whole := segments_known element known []
  rw [List.append_nil, segments] at whole
  have single : blocksOf (sourceOf parts) = [.element "pre".toList (sourceOf parts)] := by
    rw [blocksOf, element.nested.pieces_sourceOf, whole]
    rfl
  rw [inParagraphs_eq, single]
  simp [laid]

/-- Encoding and decoding change nothing where no tag has the marker. -/
theorem encode_unmarked (nested : Nested codeModel [] parts) :
    encode (sourceOf parts) = sourceOf parts ∧ decode (sourceOf parts) = .ok (sourceOf parts) := by
  have compact : ∀ part ∈ parts, part.IsCompact := by
    have fragment : Fragment codeModel [] (sourceOf parts) := .of_nested nested
    rw [← nested.pieces_sourceOf]
    exact fragment.isCompact fun _ _ permitted => permitted.1
  have unmarked : ∀ tag, .tag tag ∈ parts → isMarked tag.source = false := by
    intro tag member
    obtain ⟨_, permitted⟩ := nested.exists_permitted member
    exact permitted.2
  have decoded : ∀ tag, .tag tag ∈ parts → decodeTag tag.source = .ok tag.source := by
    intro tag member
    rw [decodeTag, unmarked tag member, if_neg Bool.false_ne_true]
  constructor
  · have held : ∀ tag, .tag tag ∈ parts → heldSource tag = tag.source := fun tag member =>
      (decodeTag_of_not_marked (unmarked tag member)).1
    rw [encode_sourceOf compact, Piece.map_rewrite_eq held]
  · rw [decode_sourceOf compact Tag.source decoded, Piece.map_rewrite_eq fun _ _ => rfl]

namespace Renderer

/-- A post of one preformatted element without the marker is shown as it is. -/
theorem localHtml_preformatted (renderer : Renderer) {table : BBCode.Table}
    (given : renderer.brackets = BBCode.render table) {post : Post}
    (element : IsElement codeModel [] "pre".toList parts) (written : Markdown.render post.text = sourceOf parts) :
    renderer.localHtml false [] post = .ok (sourceOf parts) := by
  have known : Entity.finishedElements.Knows "pre".toList := by
    unfold ElementNames.Knows
    decide
  obtain ⟨encoded, decoded⟩ := encode_unmarked element.nested
  have held : heldMarkup [] post = sourceOf parts := by
    rw [heldMarkup, List.nil_append, written, encoded]
  have kept : renderer.replaceBrackets (sourceOf parts) = sourceOf parts :=
    replaceBrackets_of_copied given (.of_nested element.nested) fun _ permitted => permitted rfl
  have ready : renderer.readyMarkup false [] post = .ok (sourceOf parts) := by
    simp only [readyMarkup, held, linkMarkup_of_element element known, bind, Except.bind, showEmojiIf,
      Bool.false_eq_true, if_false, inParagraphs_preformatted element, kept]
    rfl
  rw [localHtml_eq, ready]
  exact decoded

/-- A post of one fenced block is a code block of the lines between its fences, whatever they hold. -/
theorem statusHtml_fencedText (settings : Settings) (sanitizer : Sanitizer) (isAddress : List Char → Bool)
    (table : BBCode.Table) (post : Post)
    (isLocal : post.isLocal = true) {marker : Char} {length : Nat} {body : List (List Char)}
    (text : post.text = fencedText marker length language body) (fenced : IsFenced marker length language body) :
    let renderer : Renderer := ⟨settings, sanitizer, isAddress, BBCode.render table⟩
    renderer.statusHtml false ⟨post, none⟩ = .ok ("<pre><code".toList ++
      (language.map fun word => " class=\"language-".toList ++ word ++ ['"']).getD [] ++
        '>' :: escapeText (joinWith '\n' body) ++ "</code></pre>".toList) := by
  intro renderer
  have solid : ∀ word ∈ language, ∀ c ∈ word, isBlank c = false ∧ c ∉ fenceSpecials := fun word named c member =>
    (facts_of_languageChar ((fenced.named word named).2 c member)).2
  have line : ∀ word ∈ language, '\n' ∉ word := fun word named member =>
    absurd (solid word named _ member).1 (by decide)
  have label : (language.map fun word => writeAttribute "class" ("language-".toList ++ word)) =
      language.map fun word => " class=\"language-".toList ++ word ++ ['"'] := by
    cases language with
    | none => rfl
    | some word =>
      have special : ∀ c ∈ "&<>\"".toList, c ∈ fenceSpecials := by decide
      have own : escapeAttribute word = word := escapeAttribute_of_plain fun c member listed =>
        (solid word rfl c member).2 (special c listed)
      have lead : escapeAttribute "language-".toList = "language-".toList := by decide
      rw [Option.map_some, Option.map_some, writeAttribute, escapeAttribute_append, own, lead]
      simp
  have written : Markdown.render post.text = sourceOf (codePieces language (joinWith '\n' body)) := by
    rw [text, fenced.render_eq, sourceOf_codePieces]
  have html : renderer.localHtml false [] post = .ok (Block.html (.code language body)) := by
    rw [← sourceOf_codePieces]
    exact localHtml_preformatted renderer rfl (isElement_codePieces line _) written
  have shown : renderer.statusHtml false ⟨post, none⟩ = renderer.localHtml false [] post := by
    simp [statusHtml, Status.shown, text, fenced.filled, isLocal]
  rw [shown, html, ← label]
  rfl

/-- A block with a quote, a heading, an item, a link, its marker, a hashtag, a mention, bracket tags, a shortcode,
another fence and tags in it. -/
theorem statusHtml_fencedText_busy :
    let author := Account.onThisServer "bob".toList "https://localhost/@bob".toList
    let body := ["> # - [x](https://a.b)", "\x60\x60 <a data-md-link>", "",
      "#tag @bob [u]:cat:[/u] &amp;</code></pre>"].map String.toList
    let language := some "c++".toList
    let cat : CustomEmoji := ⟨"cat".toList, "/cat.gif".toList, "/cat.png".toList⟩
    let post : Post := ⟨fencedText '\x60' 3 language body, [], true, author, [author], [cat]⟩
    IsFenced '\x60' 3 language body ∧
      (⟨{}, fun _ html => .ok html, Url.isAbsolute, BBCode.render .builtin⟩ : Renderer).statusHtml false ⟨post, none⟩ =
        .ok ("<pre><code class=\"language-c++\">&gt; # - [x](https://a.b)\n\x60\x60 &lt;a data-md-link&gt;\n\n" ++
          "#tag @bob [u]:cat:[/u] &amp;amp;&lt;/code&gt;&lt;/pre&gt;</code></pre>").toList := by
  intro author body language cat post
  have unclosed : ∀ line ∈ body, ¬Closes '\x60' 3 line := by
    let fence : Fence := ⟨0, '\x60', 3, none⟩
    have fails : ∀ line ∈ body, fence.closedBy line = false := by decide
    intro line member closes
    have closed : fence.closedBy line = true := (Fence.closedBy_iff (.inl rfl) (by decide)).mpr closes
    exact absurd closed (by simp [fails line member])
  have fenced : IsFenced '\x60' 3 language body := ⟨.inl rfl, by decide, by decide, by decide, unclosed⟩
  refine ⟨fenced, (statusHtml_fencedText {} _ Url.isAbsolute .builtin post rfl rfl fenced).trans ?_⟩
  decide +kernel

end Renderer

end PostMarkup
