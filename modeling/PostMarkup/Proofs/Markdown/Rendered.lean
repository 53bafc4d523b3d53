import PostMarkup.Proofs.Markdown.Quote
import PostMarkup.Proofs.Markdown.RenderedTag

/-! # Rendered documents

The HTML of a document is a fragment in flow that consists of rendered tags and escaped text. The
proof follows the data: a line by its parts, a list by its entries, and a document by its blocks,
where the quotes are open and close like brackets.
-/

namespace PostMarkup.Markdown

open PostMarkup.Text

/-- Rendered tags in flow, with no angle bracket outside tags. -/
def documentModel : ContentModel := flow RenderedTag (· ≠ '>')

/-- Markup of rendered tags and escaped text inside the elements `outer`. -/
structure RenderedFragment (outer : List (List Char)) (markup : List Char) : Prop where
  nested : Fragment documentModel outer markup
  references : ReferencesOnly markup

variable {outer : List (List Char)} {left right markup text name : List Char}
  {attributes : List Attribute}

namespace RenderedFragment

theorem nil : RenderedFragment outer [] := ⟨.nil, .of_not_mem (by simp)⟩

theorem append (first : RenderedFragment outer left) (second : RenderedFragment outer right) :
    RenderedFragment outer (left ++ right) :=
  ⟨first.nested.append second.nested, first.references.append second.references⟩

/-- Escaped text, where line feeds are permitted or absent. -/
theorem escaped (lines : '\n' ∈ text → ∀ found ∈ host outer, found ∈ blockNames) :
    RenderedFragment outer (escapeText text) := by
  refine ⟨.of_chars fun c member => ?_, .escapeText text⟩
  obtain ⟨less, greater⟩ := not_mem_escapeText text
  refine ⟨fun same => less (same ▸ member), fun same => greater (same ▸ member), ?_⟩
  rintro rfl
  exact lines (mem_of_mem_escapeText member (by decide) (by decide))

theorem line (line : '\n' ∉ text) : RenderedFragment outer (escapeText text) :=
  escaped fun member => absurd member line

theorem newline (lines : ∀ found ∈ host outer, found ∈ blockNames) :
    RenderedFragment outer ['\n'] := by
  have written : escapeText ['\n'] = ['\n'] := rfl
  exact written ▸ escaped fun _ => lines

theorem void {tag : Tag} (rendered : RenderedTag tag) (isVoid : tag.IsVoid)
    (permitted : documentModel.tag outer tag) : RenderedFragment outer tag.source :=
  ⟨.void rendered.isPlain.isWritten isVoid permitted, rendered.isPlain.referencesOnly⟩

/-- An opening tag, a content that fits into the element, and the closing tag. -/
theorem element (first : RenderedTag (.opening name attributes)) (last : RenderedTag (.stop name))
    (opens : (Tag.opening name attributes).Opens) (pFirst : documentModel.tag outer (.opening name attributes))
    (pLast : documentModel.tag outer (.stop name)) (inside : RenderedFragment (name :: outer) markup) :
    RenderedFragment outer
      ((Tag.opening name attributes).source ++ (markup ++ (Tag.stop name).source)) := by
  refine ⟨.element first.isPlain.isWritten last.isPlain.isWritten opens rfl rfl pFirst pLast
    inside.nested, ?_⟩
  exact first.isPlain.referencesOnly.append (inside.references.append last.isPlain.referencesOnly)

end RenderedFragment

theorem opening_nil_opens (member : name ∈ elementNames) : (Tag.opening name []).Opens := by
  refine Tag.start_opens ?_ (by simp)
  revert member
  exact (by decide : ∀ name ∈ elementNames, name ∉ voidNames) name

theorem documentModel_tag_of_inline {tag : Tag} (rendered : RenderedTag tag)
    (apart : LinksApart outer tag) (inline : tag.name ∈ inlineNames) :
    documentModel.tag outer tag :=
  flow_tag_of_inline rendered rendered.isPlain.newline_not_mem apart inline

/-- An element without attributes whose tags may stand here. -/
theorem RenderedFragment.enclosed (member : name ∈ elementNames)
    (permitted : ∀ tag, RenderedTag tag → tag.name = name → documentModel.tag outer tag)
    (inside : RenderedFragment (name :: outer) markup) :
    RenderedFragment outer (writeElement name markup) := by
  have first : RenderedTag (.opening name []) := .opening member
  have last : RenderedTag (.stop name) := .stop (List.mem_cons_of_mem _ member)
  have parts := RenderedFragment.element first last (opening_nil_opens member)
    (permitted _ first rfl) (permitted _ last rfl) inside
  simpa [writeElement, Tag.opening, Tag.start, Tag.stop] using parts

theorem linksApart_of_ne {tag : Tag} (differs : tag.name ≠ linkName) : LinksApart outer tag :=
  fun same => absurd same differs

theorem ne_linkName_of_mem (member : name ∈ elementNames) : name ≠ linkName := by
  rintro rfl
  exact absurd member (by decide)

theorem apart_cons (member : name ∈ elementNames) (apart : linkName ∉ outer) :
    linkName ∉ name :: outer := by
  simp only [List.mem_cons, not_or]
  exact ⟨Ne.symm (ne_linkName_of_mem member), apart⟩

/-- An element without attributes within a line. -/
theorem RenderedFragment.inline (member : name ∈ elementNames) (inline : name ∈ inlineNames)
    (inside : RenderedFragment (name :: outer) markup) :
    RenderedFragment outer (writeElement name markup) := by
  refine .enclosed member (fun tag rendered named => ?_) inside
  subst named
  exact documentModel_tag_of_inline rendered (linksApart_of_ne (ne_linkName_of_mem member)) inline

theorem RenderedFragment.lineBreak : RenderedFragment outer "<br />".toList := by
  have rendered : RenderedTag (.single "br".toList []) := .single (by decide)
  exact .void rendered (Tag.single_isVoid (by decide))
    (documentModel_tag_of_inline rendered (fun link => absurd link (by decide)) (by decide))

theorem RenderedFragment.link {target : Target} (sound : target.Sound) (apart : linkName ∉ outer) :
    RenderedFragment outer target.writeLink := by
  have first : RenderedTag (target.linkTag [mark]) := .link sound
  have last : RenderedTag (.stop linkName) := .stop (by simp)
  have opens : (target.linkTag [mark]).Opens := Tag.opening_opens (by decide) fun entry member =>
    (Target.linkAttributes_isEscaped sound mark_isEscaped entry member).isClean
  rw [Target.writeLink_eq]
  have inline : linkName ∈ inlineNames := by decide
  exact .element first last opens (documentModel_tag_of_inline first (fun _ => apart) inline)
    (documentModel_tag_of_inline last (fun _ => apart) inline) (.line sound.label_line)

theorem RenderedFragment.image {target : Target} (sound : target.Sound) :
    RenderedFragment outer target.writeImage := by
  have rendered : RenderedTag (target.imageTag [mark]) := .image sound
  rw [Target.writeImage_eq]
  have inline : imageName ∈ inlineNames := by decide
  have notLink : imageName ≠ linkName := by decide
  exact .void rendered (Tag.single_isVoid (by decide))
    (documentModel_tag_of_inline rendered (fun link => absurd link notLink) inline)

theorem rendered_htmlOf {parts : List Inline}
    (each : ∀ part ∈ parts, RenderedFragment outer part.html) :
    RenderedFragment outer (Inline.htmlOf parts) := by
  induction parts with
  | nil => exact .nil
  | cons part rest ih =>
    obtain ⟨first, others⟩ := List.forall_mem_cons.mp each
    rw [Inline.htmlOf_cons]
    exact first.append (ih others)

theorem style_element (style : Style) :
    style.element ∈ elementNames ∧ style.element ∈ inlineNames := by
  cases style <;> decide

/-- The HTML of a sound part of a line, outside links. -/
theorem rendered_part {part : Inline} (sound : part.Sound) (apart : linkName ∉ outer) :
    RenderedFragment outer part.html := by
  induction sound generalizing outer with
  | text line =>
    rw [Inline.html]
    exact .line line
  | code line =>
    rw [Inline.html]
    exact .inline (by decide) (by decide) (.line line)
  | link sound =>
    rw [Inline.html]
    exact .link sound apart
  | image sound =>
    rw [Inline.html]
    exact .image sound
  | @styled style content _ ih =>
    obtain ⟨member, inline⟩ := style_element style
    rw [Inline.html]
    exact .inline member inline (rendered_htmlOf fun part inside =>
      ih part inside (apart_cons member apart))

theorem rendered_line {parts : List Inline} (sound : ∀ part ∈ parts, part.Sound)
    (apart : linkName ∉ outer) : RenderedFragment outer (Inline.htmlOf parts) :=
  rendered_htmlOf fun part member => rendered_part (sound part member) apart

theorem rendered_break (wanted : Bool) :
    RenderedFragment outer (if wanted then "<br />".toList else []) := by
  cases wanted with
  | true => exact .lineBreak
  | false => exact .nil

/-- Whether blocks are permitted: here or in the outermost element around. -/
def BlocksFit (outer : List (List Char)) : Prop := ∀ found ∈ host outer, found ∈ blockNames

/-- A block and what stands in it permit line feeds and lists. -/
theorem BlocksFit.cons (fits : BlocksFit outer) (block : name ∈ blockNames) :
    BlocksFit (name :: outer) ∧ ∃ found, host (name :: outer) = some found := by
  cases inside : host outer with
  | some found =>
    have around : host (name :: outer) = some found := host_cons_of_some inside
    refine ⟨?_, found, around⟩
    intro other member
    exact fits other (inside.trans (around.symm.trans member))
  | none =>
    have other : name ≠ quoteName := by
      rintro rfl
      exact absurd block (by decide)
    have around : host (name :: outer) = some name := host_cons_of_none inside other
    refine ⟨?_, name, around⟩
    intro found member
    rw [around, Option.mem_some] at member
    exact member ▸ block

theorem documentModel_tag_of_block {tag : Tag} (rendered : RenderedTag tag) (fits : BlocksFit outer)
    (apart : tag.name ≠ linkName) (block : tag.name ∈ blockNames)
    (list : (∃ found, host outer = some found) → tag.name ∈ listNames) :
    documentModel.tag outer tag := by
  cases inside : host outer with
  | none =>
    exact flow_tag_of_block inside rendered rendered.isPlain.newline_not_mem
      (linksApart_of_ne apart) block
  | some found =>
    exact flow_tag_of_list inside (fits found inside) rendered rendered.isPlain.newline_not_mem
      (linksApart_of_ne apart) (list ⟨found, inside⟩)

theorem RenderedFragment.list (ordered : Bool) (fits : BlocksFit outer)
    (inside : ∀ name ∈ elementNames, name ∈ blockNames → RenderedFragment (name :: outer) markup) :
    RenderedFragment outer (writeElement (if ordered then "ol".toList else "ul".toList) markup) := by
  generalize chosen : (if ordered then "ol".toList else "ul".toList) = name
  obtain ⟨member, block, list⟩ : name ∈ elementNames ∧ name ∈ blockNames ∧ name ∈ listNames := by
    subst chosen
    cases ordered <;> decide
  refine .enclosed member (fun tag rendered named => ?_) (inside name member block)
  subst named
  exact documentModel_tag_of_block rendered fits (ne_linkName_of_mem member) block fun _ => list

theorem RenderedFragment.entry {found : List Char} (around : host outer = some found)
    (block : found ∈ blockNames) (inside : RenderedFragment ("li".toList :: outer) markup) :
    RenderedFragment outer (writeElement "li".toList markup) := by
  refine .enclosed (by decide) (fun tag rendered named => ?_) inside
  have apart : tag.name ≠ linkName := by
    rw [named]
    decide
  refine flow_tag_of_list around block rendered rendered.isPlain.newline_not_mem
    (linksApart_of_ne apart) ?_
  rw [named]
  decide

theorem rendered_item {item : Item} (line : '\n' ∉ item.content) (apart : linkName ∉ outer) :
    RenderedFragment outer item.html :=
  (rendered_line (sound_of_mem_inlines line) apart).append (rendered_break item.hardBreak)

mutual

/-- The HTML of a list whose items are lines. -/
theorem rendered_outline {outer : List (List Char)} (outline : Outline)
    (lines : ∀ item ∈ outline.items, '\n' ∉ item.content) (fits : BlocksFit outer) (apart : linkName ∉ outer) :
    RenderedFragment outer outline.html := by
  match outline with
  | .mk ordered entries =>
    rw [Outline.html]
    apply RenderedFragment.list ordered fits
    intro name member block
    obtain ⟨inner, found, around⟩ := fits.cons block
    exact (RenderedFragment.newline inner).append (rendered_entries entries
      (by simpa only [Outline.items] using lines) around inner (apart_cons member apart))

theorem rendered_entries {outer : List (List Char)} (entries : List Entry)
    (lines : ∀ item ∈ Entry.itemsOf entries, '\n' ∉ item.content) {found : List Char}
    (around : host outer = some found) (fits : BlocksFit outer) (apart : linkName ∉ outer) :
    RenderedFragment outer (Entry.htmlOf entries) := by
  match entries with
  | [] =>
    rw [Entry.htmlOf]
    exact .nil
  | entry :: rest =>
    simp only [Entry.itemsOf, List.mem_append, or_imp, forall_and] at lines
    rw [Entry.htmlOf]
    exact (rendered_entry entry lines.1 around fits apart).append
      (rendered_entries rest lines.2 around fits apart)

theorem rendered_entry {outer : List (List Char)} (entry : Entry)
    (lines : ∀ item ∈ entry.items, '\n' ∉ item.content) {found : List Char} (around : host outer = some found)
    (fits : BlocksFit outer) (apart : linkName ∉ outer) : RenderedFragment outer entry.html := by
  match entry with
  | .mk item inner =>
    simp only [Entry.items, List.mem_append, or_imp, forall_and] at lines
    have around' : host ("li".toList :: outer) = some found := host_cons_of_some around
    have fits' : BlocksFit ("li".toList :: outer) := fun other member =>
      fits other (around.trans (around'.symm.trans member))
    have apart' : linkName ∉ "li".toList :: outer := apart_cons (by decide) apart
    have own : RenderedFragment ("li".toList :: outer) ((item.map Item.html).getD []) := by
      cases item with
      | none => exact .nil
      | some item => exact rendered_item (lines.1 item (by simp)) apart'
    have parts := (RenderedFragment.entry around (fits found around)
      (own.append (rendered_outlines inner lines.2 fits' apart'))).append (.newline fits)
    rw [Entry.html]
    simpa [writeElement] using parts

theorem rendered_outlines {outer : List (List Char)} (outlines : List Outline)
    (lines : ∀ item ∈ Outline.itemsOf outlines, '\n' ∉ item.content)
    (fits : BlocksFit outer) (apart : linkName ∉ outer) :
    RenderedFragment outer (Outline.htmlOf outlines) := by
  match outlines with
  | [] =>
    rw [Outline.htmlOf]
    exact .nil
  | outline :: rest =>
    simp only [Outline.itemsOf, List.mem_append, or_imp, forall_and] at lines
    have own := (RenderedFragment.newline fits).append
      ((rendered_outline outline lines.1 fits apart).append (.newline fits))
    have parts := own.append (rendered_outlines rest lines.2 fits apart)
    rw [Outline.htmlOf]
    simpa using parts

end

theorem RenderedFragment.block (flows : InFlow outer) (member : name ∈ elementNames)
    (block : name ∈ blockNames) (inside : RenderedFragment (name :: outer) markup) :
    RenderedFragment outer (writeElement name markup) := by
  refine .enclosed member (fun tag rendered named => ?_) inside
  subst named
  exact flow_tag_of_block flows rendered rendered.isPlain.newline_not_mem
    (linksApart_of_ne (ne_linkName_of_mem member)) block

theorem blocksFit_of_inFlow (flows : InFlow outer) : BlocksFit outer := by
  intro found member
  have none : host outer = none := flows
  simp [none] at member

theorem rendered_rule (flows : InFlow outer) : RenderedFragment outer "<hr />".toList := by
  have rendered : RenderedTag (.single "hr".toList []) := .single (by decide)
  exact .void rendered (Tag.single_isVoid (by decide))
    (flow_tag_of_block flows rendered rendered.isPlain.newline_not_mem
      (linksApart_of_ne (by decide)) (by decide))

theorem rendered_heading {level : Nat} {content : List Inline} (flows : InFlow outer)
    (apart : linkName ∉ outer) (sound : Block.Sound (.heading level content)) :
    RenderedFragment outer (Block.html (.heading level content)) := by
  obtain ⟨low, high, parts⟩ := sound
  have names : 'h' :: (toString level).toList ∈ elementNames ∧
      'h' :: (toString level).toList ∈ blockNames := by
    have small : ∀ below < 7, 1 ≤ below → 'h' :: (toString below).toList ∈ elementNames ∧
        'h' :: (toString below).toList ∈ blockNames := by decide
    exact small level (Nat.lt_succ_of_le high) low
  exact .block flows names.1 names.2 (rendered_line parts (apart_cons names.1 apart))

def codeTag (language : Option (List Char)) : Tag :=
  .opening "code".toList (language.toList.map fun word => .escaped "class" ("language-".toList ++ word))

theorem codeTag_rendered {language : Option (List Char)} (line : ∀ word ∈ language, '\n' ∉ word) :
    RenderedTag (codeTag language) ∧ (codeTag language).Opens := by
  cases language with
  | none => exact ⟨.opening (by decide), opening_nil_opens (by decide)⟩
  | some word =>
    refine ⟨.code (line word rfl), Tag.opening_opens (by decide) fun entry member => ?_⟩
    obtain rfl := List.mem_singleton.mp member
    exact Attribute.escaped_isClean (by decide) _

theorem html_code (language : Option (List Char)) (lines : List (List Char)) :
    Block.html (.code language lines) = writeElement "pre".toList ((codeTag language).source ++
      (escapeText (joinWith '\n' lines) ++ (Tag.stop "code".toList).source)) := by
  unfold Block.html
  cases language <;> simp [writeElement, codeTag, Tag.opening, Tag.start, Tag.stop]

/-- Code in a preformatted block may hold line feeds. -/
theorem rendered_code {language : Option (List Char)} {lines : List (List Char)}
    (flows : InFlow outer) (line : ∀ word ∈ language, '\n' ∉ word) :
    RenderedFragment outer (Block.html (.code language lines)) := by
  obtain ⟨first, opens⟩ := codeTag_rendered line
  have last : RenderedTag (.stop "code".toList) := .stop (by decide)
  have permitted (tag : Tag) (rendered : RenderedTag tag) (named : tag.name = "code".toList) :
      documentModel.tag ("pre".toList :: outer) tag := by
    refine documentModel_tag_of_inline rendered (linksApart_of_ne ?_) ?_
    all_goals
      rw [named]
      decide
  obtain ⟨inner, found, around⟩ :=
    (blocksFit_of_inFlow flows).cons (by decide : "pre".toList ∈ blockNames)
  have around' : host ("code".toList :: "pre".toList :: outer) = some found :=
    host_cons_of_some around
  have body : RenderedFragment ("code".toList :: "pre".toList :: outer)
      (escapeText (joinWith '\n' lines)) :=
    .escaped fun _ other member => inner other (around.trans (around'.symm.trans member))
  rw [html_code]
  exact .block flows (by decide) (by decide)
    (.element first last opens (permitted _ first rfl) (permitted _ last rfl) body)

/-- The HTML of a sound block that is no mark of a quote. -/
theorem rendered_block {block : Block} (flows : InFlow outer) (apart : linkName ∉ outer)
    (sound : block.Sound) (notOpen : block ≠ .quoteOpen) (notClose : block ≠ .quoteClose) :
    RenderedFragment outer block.html := by
  cases block with
  | code language lines => exact rendered_code flows sound
  | quoteOpen => exact absurd rfl notOpen
  | quoteClose => exact absurd rfl notClose
  | heading level content => exact rendered_heading flows apart sound
  | rule => exact rendered_rule flows
  | outline items => exact rendered_outline items sound (blocksFit_of_inFlow flows) apart
  | line content hardBreak =>
    exact (rendered_line sound apart).append (rendered_break hardBreak)

theorem inFlow_quotes (depth : Nat) : InFlow (List.replicate depth quoteName) := by
  induction depth with
  | zero => rfl
  | succ depth ih => exact ih.quote

theorem apart_quotes (depth : Nat) : linkName ∉ List.replicate depth quoteName := by
  intro member
  exact absurd (List.eq_of_mem_replicate member) (by decide)

/-- A block leads from the quotes that are open before it to those open after it. -/
theorem leads_block {depth : Nat} {block : Block} {rest : List Block}
    (closed : QuotesClosed depth (block :: rest)) (sound : block.Sound) :
    ∃ after, QuotesClosed after rest ∧ Leads documentModel [] (List.replicate depth quoteName)
      block.html (List.replicate after quoteName) := by
  have flows (depth : Nat) : host (List.replicate depth quoteName ++ []) = none := by
    rw [List.append_nil]
    exact inFlow_quotes depth
  have permitted (depth : Nat) (tag : Tag) (rendered : RenderedTag tag)
      (named : tag = .start quoteName [] ∨ tag = .stop quoteName) :
      documentModel.tag (List.replicate depth quoteName ++ []) tag := by
    refine ⟨rendered, rendered.isPlain.newline_not_mem, linksApart_of_ne ?_, ?_⟩
    · rcases named with rfl | rfl <;> decide
    · rw [flows]
      exact .inr (.inr named)
  have plain (notOpen : block ≠ .quoteOpen) (notClose : block ≠ .quoteClose)
      (same : QuotesClosed depth rest) : ∃ after, QuotesClosed after rest ∧
        Leads documentModel [] (List.replicate depth quoteName) block.html
          (List.replicate after quoteName) := by
    refine ⟨depth, same, .of_fragment (rendered_block (flows depth) ?_ sound notOpen notClose).nested⟩
    simpa using apart_quotes depth
  cases block with
  | quoteOpen =>
    have rendered : RenderedTag (.start quoteName []) := .opening (by decide)
    exact ⟨depth + 1, closed, .enter rendered.isPlain.isWritten
      (opening_nil_opens (by decide)) (permitted depth _ rendered (.inl rfl))⟩
  | quoteClose =>
    cases depth with
    | zero => exact closed.elim
    | succ depth =>
      have rendered : RenderedTag (.stop quoteName) := .stop (by decide)
      exact ⟨depth, closed, .leave rendered.isPlain.isWritten rfl
        (permitted depth _ rendered (.inr rfl))⟩
  | code => exact plain nofun nofun closed
  | heading => exact plain nofun nofun closed
  | rule => exact plain nofun nofun closed
  | outline => exact plain nofun nofun closed
  | line => exact plain nofun nofun closed

theorem leads_newline (depth : Nat) : Leads documentModel [] (List.replicate depth quoteName) ['\n']
    (List.replicate depth quoteName) := by
  refine .of_fragment (RenderedFragment.newline (blocksFit_of_inFlow ?_)).nested
  simpa using inFlow_quotes depth

/-- Blocks whose quotes are closed, one after the other on lines of their own. -/
theorem leads_blocks {depth : Nat} {blocks : List Block} (closed : QuotesClosed depth blocks)
    (sound : ∀ block ∈ blocks, block.Sound) : Leads documentModel [] (List.replicate depth quoteName)
      (joinWith '\n' (blocks.map Block.html)) [] := by
  induction blocks generalizing depth with
  | nil =>
    obtain rfl : depth = 0 := closed
    exact .nil
  | cons block rest ih =>
    obtain ⟨first, others⟩ := List.forall_mem_cons.mp sound
    obtain ⟨after, closed', leads⟩ := leads_block closed first
    have further := ih closed' others
    cases rest with
    | nil =>
      obtain rfl : after = 0 := closed'
      exact leads
    | cons next more => exact leads.append ((leads_newline after).append further)

theorem referencesOnly_block {block : Block} (sound : block.Sound) : ReferencesOnly block.html := by
  by_cases quoteOpen : block = .quoteOpen
  · subst quoteOpen
    exact .of_not_mem (by decide)
  · by_cases quoteClose : block = .quoteClose
    · subst quoteClose
      exact .of_not_mem (by decide)
    · have flows : InFlow [] := rfl
      exact (rendered_block flows (by simp) sound quoteOpen quoteClose).references

theorem referencesOnly_blocks {blocks : List Block} (sound : ∀ block ∈ blocks, block.Sound) :
    ReferencesOnly (joinWith '\n' (blocks.map Block.html)) := by
  induction blocks with
  | nil => exact .of_not_mem (by simp [joinWith])
  | cons block rest ih =>
    obtain ⟨first, others⟩ := List.forall_mem_cons.mp sound
    have newline : ReferencesOnly ['\n'] := .of_not_mem (by decide)
    cases rest with
    | nil => exact referencesOnly_block first
    | cons next more => exact (referencesOnly_block first).append (newline.append (ih others))

/-- The HTML of a document consists of rendered tags in flow and escaped text. -/
theorem rendered_render (text : List Char) : RenderedFragment [] (render text) := by
  have sound := sound_of_readDocument text
  exact ⟨fragment_iff_leads.mpr (leads_blocks (quotesClosed_readDocument text) sound),
    referencesOnly_blocks sound⟩

end PostMarkup.Markdown
