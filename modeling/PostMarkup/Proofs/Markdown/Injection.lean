import PostMarkup.Proofs.Markdown.Rendered

/-! # Rendered documents are safe from injection

Whatever the text of a document is, its HTML is properly nested, all its tags are the renderer's
own, the values of their attributes stay between their quotes, every ampersand starts a written
reference, and links and images lead to pages of the web.
-/

namespace PostMarkup.Markdown

open PostMarkup.Text

/-- The elements that the renderer writes. -/
def renderedNames : List (List Char) :=
  ["h1", "h2", "h3", "h4", "h5", "h6", "em", "strong", "s", "sup", "u", "mark", "code", "pre", "a",
    "img", "ul", "ol", "li", "blockquote", "hr", "br"].map String.toList

/-- Whether an address starts with a scheme of the web in any case, with a further character. -/
def LeadsToPage (url : List Char) : Prop :=
  ∃ scheme rest, url = scheme ++ rest ∧ rest ≠ [] ∧
    lowerAscii scheme ∈ ["http://".toList, "https://".toList]

/-- Whether the attribute `key` occurs and holds the escaped address of a page. -/
def HoldsPage (key : List Char) (attributes : List Attribute) : Prop :=
  ∃ url, LeadsToPage url ∧
    ∀ value, .valued key value ∈ attributes ↔ value = escapeAttribute url

/-- A closing tag, or an opening or single tag with clean attributes whose address is that of a
page. -/
inductive SafeTag : Tag → Prop
  | stop {name : List Char} : name ∈ renderedNames → SafeTag (.stop name)
  | opening {name : List Char} {attributes : List Attribute} : name ∈ renderedNames →
      (∀ entry ∈ attributes, entry.IsClean) → (name = linkName → HoldsPage "href".toList attributes) →
      name ≠ imageName → SafeTag (.opening name attributes)
  | single {name : List Char} {attributes : List Attribute} : name ∈ renderedNames →
      (∀ entry ∈ attributes, entry.IsClean) → (name = imageName → HoldsPage "src".toList attributes) →
      name ≠ linkName → SafeTag (.single name attributes)

/-- Safe tags, with no angle bracket outside them. -/
def safeMarkup : ContentModel where
  tag _ tag := SafeTag tag
  char _ c := c ≠ '<' ∧ c ≠ '>'

theorem leadsToPage_of_isLinkable {url : List Char} (linkable : Url.isLinkable url = true) :
    LeadsToPage url := by
  unfold Url.isLinkable at linkable
  cases found : Url.linkedScheme? url with
  | none => simp [found] at linkable
  | some scheme =>
    simp only [found, Option.any_some, decide_eq_true_eq] at linkable
    obtain ⟨listed, same⟩ := Url.lowerAscii_of_linkedScheme? found
    refine ⟨url.take scheme.length, url.drop scheme.length, (List.take_append_drop ..).symm, ?_, ?_⟩
    · intro nothing
      have shorter := List.drop_eq_nil_iff.mp nothing
      omega
    · rw [same]
      exact listed

variable {target : Target}

theorem holdsPage_link (sound : target.Sound) :
    HoldsPage "href".toList (target.linkAttributes [mark]) := by
  refine ⟨target.url, leadsToPage_of_isLinkable sound.linkable, fun value => ?_⟩
  simp [Target.linkAttributes, Attribute.escaped, mark]

theorem holdsPage_image (sound : target.Sound) :
    HoldsPage "src".toList (target.imageAttributes [mark]) := by
  refine ⟨target.url, leadsToPage_of_isLinkable sound.linkable, fun value => ?_⟩
  simp [Target.imageAttributes, Attribute.escaped, mark]

theorem RenderedTag.isSafe {tag : Tag} (rendered : RenderedTag tag) : SafeTag tag := by
  have known : ∀ name ∈ elementNames, name ∈ renderedNames ∧ name ≠ linkName ∧ name ≠ imageName := by
    decide
  cases rendered with
  | opening member =>
    obtain ⟨own, notLink, notImage⟩ := known _ member
    exact .opening own (by simp) (fun link => absurd link notLink) notImage
  | stop member =>
    rcases List.mem_cons.mp member with rfl | member
    · exact .stop (by decide)
    · exact .stop (known _ member).1
  | single member =>
    have void : ∀ name ∈ ["br".toList, "hr".toList],
        name ∈ renderedNames ∧ name ≠ imageName ∧ name ≠ linkName := by decide
    obtain ⟨own, notImage, notLink⟩ := void _ member
    exact .single own (by simp) (fun image => absurd image notImage) notLink
  | code line =>
    refine .opening (by decide) (fun entry member => ?_) (fun link => absurd link (by decide)) (by decide)
    obtain rfl := List.mem_singleton.mp member
    exact Attribute.escaped_isClean (by decide) _
  | link sound =>
    exact .opening (by decide) (fun entry member =>
      (Target.linkAttributes_isEscaped sound mark_isEscaped entry member).isClean)
      (fun _ => holdsPage_link sound) (by decide)
  | image sound =>
    exact .single (by decide) (fun entry member =>
      (Target.imageAttributes_isEscaped sound mark_isEscaped entry member).isClean)
      (fun _ => holdsPage_image sound) (by decide)

/-- The HTML of any text consists of properly nested safe tags and of text without angle brackets,
and each of its ampersands starts a written reference. -/
theorem render_safe (text : List Char) :
    Fragment safeMarkup [] (render text) ∧ ReferencesOnly (render text) := by
  obtain ⟨nested, references⟩ := rendered_render text
  refine ⟨nested.mono ?_ ?_, references⟩
  · intro outer c notLess permitted
    exact ⟨notLess, permitted.1⟩
  · intro outer tag permitted
    exact RenderedTag.isSafe permitted.1

end PostMarkup.Markdown
