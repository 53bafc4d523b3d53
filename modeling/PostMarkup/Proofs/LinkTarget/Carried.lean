import PostMarkup.Proofs.LinkTarget.RoundTrip

/-! # Tags between encoding and decoding

While link targets are held, all stages work on tags on one line whose only angle brackets are those
at their ends, and which decoding turns into such tags that read back. Tags without the marker are so,
and so are the tags of a rendered document.
-/

namespace PostMarkup

open PostMarkup.Text PostMarkup.LinkTarget PostMarkup.Markdown

/-- Whether a tag can be worked on while link targets are held. -/
structure Tag.IsCarried (tag : Tag) : Prop where
  compact : tag.IsCompact
  line : '\n' ∉ tag.source
  restored : ∃ source, decodeTag tag.source = .ok source ∧ Tag.IsWritten { tag with source } ∧
    Tag.IsCompact { tag with source }

/-- Whether attributes are escaped and none of them is the marker. -/
def Attribute.Ordinary (attributes : List Attribute) : Prop :=
  ∀ entry ∈ attributes, entry.IsEscaped ∧ entry.name ≠ marker

namespace Attribute

theorem ordinary_nil : Ordinary [] := by
  intro entry member
  exact absurd member (by simp)

theorem ordinary_cons {name : String} {text : List Char} {rest : List Attribute}
    (named : isName name.toList = true) (other : name.toList ≠ marker) (line : '\n' ∉ text)
    (given : Ordinary rest) : Ordinary (.escaped name text :: rest) :=
  List.forall_mem_cons.mpr ⟨⟨escaped_isEscaped named line, other⟩, given⟩

end Attribute

namespace Tag

variable {tag : Tag} {name : List Char} {attributes : List Attribute}

theorem IsPlain.isCarried (plain : tag.IsPlain) (unmarked : isMarked tag.source = false) :
    tag.IsCarried := by
  refine ⟨plain.isCompact, plain.newline_not_mem, tag.source, ?_, plain.isWritten, plain.isCompact⟩
  rw [decodeTag, unmarked, if_neg Bool.false_ne_true]

theorem isMarked_ordinary (named : isName name = true) (given : Attribute.Ordinary attributes) :
    isMarked (opening name attributes).source = false ∧
      isMarked (single name attributes).source = false :=
  isMarked_opening named fun entry member =>
    ⟨(given entry member).1.isClean, (given entry member).2⟩

theorem ended_isCarried {ending : List Char} (named : isName name = true) (given : Attribute.Ordinary attributes)
    (listed : ending ∈ endings) : (ended name attributes ending).IsCarried :=
  (IsPlain.ended named (fun entry member => (given entry member).1) listed).isCarried
    (isMarked_ended named (fun entry member => ⟨(given entry member).1.isClean, (given entry member).2⟩) listed)

theorem opening_isCarried (named : isName name = true) (given : Attribute.Ordinary attributes) :
    (opening name attributes).IsCarried :=
  opening_eq name attributes ▸ ended_isCarried named given (by decide)

theorem single_isCarried (named : isName name = true) (given : Attribute.Ordinary attributes) :
    (single name attributes).IsCarried :=
  ended_isCarried named given (by decide)

theorem stop_isCarried (named : isName name = true) : (stop name).IsCarried :=
  (IsPlain.stop named).isCarried (isMarked_stop named)

end Tag

/-- An element with ordinary attributes stands where its tags may stand. -/
theorem Fragment.enclosed {model : ContentModel} {outer : List (List Char)} {name markup : List Char}
    {attributes : List Attribute} (named : Tag.isName name = true) (normal : name ∉ voidNames)
    (given : Attribute.Ordinary attributes)
    (placed : ∀ tag : Tag, tag.IsCarried → tag.name = name → model.tag outer tag)
    (inside : Fragment model (name :: outer) markup) :
    Fragment model outer ((Tag.opening name attributes).source ++ (markup ++ (Tag.stop name).source)) := by
  have clean : ∀ entry ∈ attributes, entry.IsClean := fun entry member => (given entry member).1.isClean
  apply element (Tag.opening_isWritten named clean) (Tag.stop_isWritten named)
    (Tag.opening_opens normal clean) rfl rfl ?_ ?_ inside
  · exact placed _ (Tag.opening_isCarried named given) rfl
  · exact placed _ (Tag.stop_isCarried named) rfl

namespace LinkTarget

/-- A tag as it is held. -/
def held (tag : Tag) : Tag := { tag with source := heldSource tag }

variable {tag : Tag} {target : Target} {address middle : List Char}

/-- The text of a link after its lead and of an image after its label, without the final `>`. -/
def linkTail (middle : List Char) : List Char := middle ++ linkEnd.dropLast

def imageTail (target : Target) (middle : List Char) : List Char :=
  middle ++ '"' :: (escapeAttribute (target.title.getD target.label) ++ '"' ::
    (' ' :: (marker ++ " /".toList)))

theorem linkText_start (target : Target) (address middle : List Char) :
    linkText target address middle =
      (Tag.start linkName (Attribute.written (linkLead target address) ++ linkTail middle)).source := by
  have ends : linkEnd = linkEnd.dropLast ++ ['>'] := by decide
  rw [linkText_eq, ends]
  simp [Tag.start, linkTail]

theorem imageText_start (target : Target) (address middle : List Char) :
    imageText target address middle =
      (Tag.start imageName (Attribute.written (imageLead target address) ++
        imageTail target middle)).source := by
  rw [imageText_eq]
  simp [Tag.start, imageTail]

/-- The texts that stand before the value of `target` in a link that is held. -/
def linkMiddles : List (List Char) := [markedMiddle, Percent.encode markedMiddle]

/-- The texts that stand before the title of an image that is held. -/
def imageMiddles : List (List Char) := [titleMiddle, Percent.encode titleMiddle]

theorem heldSource_link_eq (target : Target) : ∃ middle ∈ linkMiddles,
    heldSource (target.linkTag [mark]) = linkText target (Percent.encode target.url) middle := by
  rw [heldSource_link]
  split
  · exact ⟨_, by simp [linkMiddles], rfl⟩
  · exact ⟨_, by simp [linkMiddles], rfl⟩

theorem heldSource_image_eq (target : Target) : ∃ middle ∈ imageMiddles,
    heldSource (target.imageTag [mark]) = imageText target (Percent.encode target.url) middle := by
  rw [heldSource_image]
  split
  · exact ⟨_, by simp [imageMiddles], rfl⟩
  · exact ⟨_, by simp [imageMiddles], rfl⟩

theorem last_linkTail (lead : List Char) (middle : List Char) :
    (lead ++ linkTail middle).getLast? = some '"' := by
  have last : linkEnd.dropLast.getLast? = some '"' := by decide
  rw [List.getLast?_append, linkTail, List.getLast?_append, last]
  rfl

theorem last_imageTail (lead : List Char) (middle : List Char) :
    (lead ++ imageTail target middle).getLast? = some '/' := by
  have shape : imageTail target middle = (middle ++ '"' :: (escapeAttribute
      (target.title.getD target.label) ++ '"' :: (' ' :: (marker ++ [' '])))) ++ ['/'] := by
    simp [imageTail]
  rw [shape, ← List.append_assoc, List.getLast?_concat]

theorem selfClosing_link (sound : target.Sound) (others : List Attribute)
    (given : ∀ entry ∈ others, entry.IsEscaped) : (target.linkTag others).selfClosing = false := by
  have opens : (target.linkTag others).Opens := Tag.opening_opens (by decide) fun entry member =>
    (Target.linkAttributes_isEscaped sound given entry member).isClean
  exact opens.2.1

/-- A link that is held is an opening tag. -/
theorem held_link (sound : target.Sound) : ∃ middle ∈ linkMiddles, held (target.linkTag [mark]) =
    .start linkName (Attribute.written (linkLead target (Percent.encode target.url)) ++
      linkTail middle) := by
  obtain ⟨middle, listed, source⟩ := heldSource_link_eq target
  refine ⟨middle, listed, ?_⟩
  rw [held, source, linkText_start, selfClosing_link sound [mark] mark_isEscaped]
  simp only [Tag.start, last_linkTail]
  rfl

/-- An image that is held is the tag of a void element. -/
theorem held_image (target : Target) : ∃ middle ∈ imageMiddles, held (target.imageTag [mark]) =
    .start imageName (Attribute.written (imageLead target (Percent.encode target.url)) ++
      imageTail target middle) := by
  obtain ⟨middle, listed, source⟩ := heldSource_image_eq target
  have void : (target.imageTag [mark]).selfClosing = true := by
    simp [Target.imageTag, Tag.single, Tag.start]
  refine ⟨middle, listed, ?_⟩
  rw [held, source, imageText_start, void]
  simp only [Tag.start, last_imageTail]
  rfl

theorem escapeAttribute_encode (text : List Char) :
    escapeAttribute (Percent.encode text) = Percent.encode text := by
  apply escapeAttribute_of_plain
  intro c member special
  have reserved : ∀ d ∈ "&<>\"".toList, d ≠ '%' ∧ Percent.isUnreserved d = false := by decide
  obtain ⟨percent, other⟩ := reserved c special
  exact Percent.not_mem_encode percent other member

theorem encoded_isEscaped {name : String} (named : Attribute.isName name.toList = true)
    (text : List Char) : (Attribute.valued name.toList (Percent.encode text)).IsEscaped := by
  refine ⟨named, Percent.encode text, ?_, (escapeAttribute_encode text).symm⟩
  exact Percent.not_mem_encode (by decide) (by decide)

theorem linkLead_isEscaped (sound : target.Sound) (text : List Char) :
    ∀ entry ∈ linkLead target (Percent.encode text), entry.IsEscaped := by
  refine List.forall_mem_cons.mpr ⟨encoded_isEscaped (by decide) text, fun entry member => ?_⟩
  obtain ⟨title, titled, rfl⟩ := List.mem_map.mp member
  exact Attribute.escaped_isEscaped (by decide) (sound.title_line title (by simpa using titled))

theorem imageLead_isEscaped (sound : target.Sound) (text : List Char) :
    ∀ entry ∈ imageLead target (Percent.encode text), entry.IsEscaped := by
  refine List.forall_mem_cons.mpr ⟨encoded_isEscaped (by decide) text, fun entry member => ?_⟩
  obtain rfl := List.mem_singleton.mp member
  exact Attribute.escaped_isEscaped (by decide) sound.label_line

/-- The texts that stand before other values close their quotes and hold neither a line feed nor a
reference. -/
theorem middles_are_plain : (∀ middle ∈ linkMiddles, Tag.quotesClosed none (linkTail middle) = true ∧
      '\n' ∉ linkTail middle ∧ '&' ∉ linkTail middle) ∧
    ∀ middle ∈ imageMiddles, Tag.quotesClosed none middle = true ∧ '\n' ∉ middle ∧ '&' ∉ middle := by
  decide

/-- The tail of an image that is held. -/
theorem imageTail_is_plain (sound : target.Sound) (listed : middle ∈ imageMiddles) :
    Tag.quotesClosed none (imageTail target middle) = true ∧ '\n' ∉ imageTail target middle ∧
      ReferencesOnly (imageTail target middle) := by
  obtain ⟨closed, line, clean⟩ := middles_are_plain.2 middle listed
  have value : '"' ∉ escapeAttribute (target.title.getD target.label) := (not_mem_escapeAttribute _).1
  have value' : '\n' ∉ escapeAttribute (target.title.getD target.label) := by
    intro member
    have inside := mem_of_mem_escapeAttribute member (by decide)
    cases title : target.title with
    | none => exact sound.label_line (by simpa [title] using inside)
    | some words => exact sound.title_line words title (by simpa [title] using inside)
  have word : '\n' ∉ marker := by decide
  refine ⟨?_, ?_, ?_⟩
  · apply Tag.quotesClosed_append closed
    change Tag.quotesClosed (some '"') _ = true
    rw [Tag.quotesClosed_value value]
    decide
  · simp [imageTail, line, value', word]
  · have quote : ReferencesOnly ['"'] := .of_not_mem (by decide)
    have ending : ReferencesOnly ('"' :: (' ' :: (marker ++ " /".toList))) := .of_not_mem (by decide)
    have before := (ReferencesOnly.of_not_mem clean).append quote
    have whole := before.append ((ReferencesOnly.escapeAttribute
      (target.title.getD target.label)).append ending)
    simpa [imageTail] using whole

/-- A tag that is written from some attributes and a tail that closes its quotes. -/
theorem start_of_lead {name tail : List Char} {lead : List Attribute} (named : Tag.isName name = true)
    (nonempty : lead ≠ []) (given : ∀ entry ∈ lead, entry.IsEscaped)
    (closed : Tag.quotesClosed none tail = true) (line : '\n' ∉ tail) (references : ReferencesOnly tail) :
    (Tag.start name (Attribute.written lead ++ tail)).IsWritten ∧
      '\n' ∉ (Tag.start name (Attribute.written lead ++ tail)).source ∧
        ReferencesOnly (Tag.start name (Attribute.written lead ++ tail)).source := by
  refine ⟨?_, ?_, ?_⟩
  · apply Tag.start_isWritten named
    · obtain ⟨entry, others, rfl⟩ := List.exists_cons_of_ne_nil nonempty
      cases entry <;> rfl
    · exact Tag.quotesClosed_append
        (Attribute.quotesClosed_written fun entry member => (given entry member).isClean) closed
  · have word := Tag.not_mem_of_isName named (c := '\n') (by decide)
    have values := Attribute.newline_not_mem_written given
    simp [Tag.start, word, values, line]
  · have word := Tag.not_mem_of_isName named (c := '&') (by decide)
    have before : ReferencesOnly ('<' :: name) := .of_not_mem (by simp [word])
    have values := (Attribute.referencesOnly_written given).append references
    exact (before.append values).append (.of_not_mem (by decide))

/-- A rendered tag that is held reads back, stands on one line, and holds proper references only. -/
theorem held_of_rendered (rendered : RenderedTag tag) :
    (held tag).IsWritten ∧ '\n' ∉ (held tag).source ∧ ReferencesOnly (held tag).source := by
  rcases marker_of_rendered rendered with ⟨plain, _⟩ | ⟨target, sound, rfl⟩ | ⟨target, sound, rfl⟩
  · have same : held tag = tag := by
      rw [held, (decodeTag_of_not_marked plain).1]
    rw [same]
    exact ⟨rendered.isPlain.isWritten, rendered.isPlain.newline_not_mem, rendered.isPlain.referencesOnly⟩
  · obtain ⟨middle, listed, same⟩ := held_link sound
    obtain ⟨closed, line, clean⟩ := middles_are_plain.1 middle listed
    rw [same]
    exact start_of_lead (by decide) (by simp [linkLead]) (linkLead_isEscaped sound _) closed line
      (.of_not_mem clean)
  · obtain ⟨middle, listed, same⟩ := held_image target
    obtain ⟨closed, line, references⟩ := imageTail_is_plain sound listed
    rw [same]
    exact start_of_lead (by decide) (by simp [imageLead]) (imageLead_isEscaped sound _) closed line
      references

/-- Decoding turns a rendered tag that is held into a compact tag that reads back. -/
theorem restored_isWritten (rendered : RenderedTag tag) :
    Tag.IsWritten { held tag with source := restoredSource tag } ∧
      Tag.IsCompact { held tag with source := restoredSource tag } := by
  rcases decodeTag_of_rendered rendered with decoded | ⟨target, rfl, misleading, decoded⟩
  · rw [restoredSource_of_ok decoded]
    rcases marker_of_rendered rendered with ⟨_, same⟩ | ⟨target, sound, rfl⟩ | ⟨target, sound, rfl⟩
    · rw [same]
      exact ⟨rendered.isPlain.isWritten, rendered.isPlain.isCompact⟩
    · have clean (entry : Attribute) (member : entry ∈ target.linkAttributes []) : entry.IsClean :=
        (Target.linkAttributes_isEscaped sound (by simp) entry member).isClean
      have same : (target.linkTag [mark]).selfClosing = (target.linkTag []).selfClosing := by
        rw [selfClosing_link sound [mark] mark_isEscaped, selfClosing_link sound [] (by simp)]
      rw [withoutMarker_link, held, same]
      have named : Tag.isName linkName = true := by decide
      exact ⟨Tag.opening_isWritten named clean, Tag.opening_isCompact named clean⟩
    · have clean (entry : Attribute) (member : entry ∈ target.imageAttributes []) : entry.IsClean :=
        (Target.imageAttributes_isEscaped sound (by simp) entry member).isClean
      have same : (target.imageTag [mark]).selfClosing = (target.imageTag []).selfClosing := by
        simp [Target.imageTag, Tag.single, Tag.start]
      rw [withoutMarker_image, held, same]
      have named : Tag.isName imageName = true := by decide
      exact ⟨Tag.single_isWritten named clean, Tag.single_isCompact named clean⟩
  · rw [restoredSource_of_ok decoded]
    exact ⟨(held_of_rendered rendered).1, held_isCompact rendered⟩

theorem held_isCarried (rendered : RenderedTag tag) : (held tag).IsCarried where
  compact := held_isCompact rendered
  line := (held_of_rendered rendered).2.1
  restored := ⟨restoredSource tag, decodeTag_restored rendered, restored_isWritten rendered⟩

end LinkTarget
end PostMarkup
