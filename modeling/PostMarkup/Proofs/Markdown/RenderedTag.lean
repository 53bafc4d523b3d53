import PostMarkup.Proofs.Markdown.Sound
import PostMarkup.Proofs.Markup.Attribute
import PostMarkup.Proofs.Markup.Flow

/-! # The tags of rendered documents

A document is rendered with a fixed set of tags. Most have no attributes; a block of code may name
its language, and links and images carry their target in escaped attributes and the marker.
-/

namespace PostMarkup.Markdown

open PostMarkup.Text

def imageName : List Char := "img".toList

/-- The attribute that marks the tags of rendered links and images. -/
def mark : Attribute := .flag LinkTarget.marker

namespace Target

def linkAttributes (target : Target) (others : List Attribute) : List Attribute :=
  .escaped "href" target.url :: target.title.toList.map (.escaped "title") ++ others ++
    [.escaped "target" "_blank".toList, .escaped "rel" linkRelation]

def imageAttributes (target : Target) (others : List Attribute) : List Attribute :=
  [.escaped "src" target.url, .escaped "alt" target.label,
    .escaped "title" (target.title.getD target.label)] ++ others

def linkTag (target : Target) (others : List Attribute) : Tag :=
  .opening linkName (target.linkAttributes others)

def imageTag (target : Target) (others : List Attribute) : Tag :=
  .single imageName (target.imageAttributes others)

theorem writeLink_eq (target : Target) : target.writeLink =
    (target.linkTag [mark]).source ++ (escapeText target.label ++ (Tag.stop linkName).source) := by
  unfold writeLink
  cases title : target.title <;>
    simp [linkTag, Tag.opening, Tag.start, Tag.stop, linkAttributes, linkName, mark, title]

theorem writeImage_eq (target : Target) : target.writeImage = (target.imageTag [mark]).source := by
  unfold writeImage
  simp [imageTag, Tag.single, Tag.start, imageAttributes, imageName, mark]

end Target

/-- The elements of rendered documents that enclose a content. -/
def elementNames : List (List Char) :=
  ["em", "strong", "s", "sup", "u", "mark", "code", "pre", "h1", "h2", "h3", "h4", "h5", "h6", "ul",
    "ol", "li", "blockquote"].map String.toList

/-- The tags with which documents are rendered. -/
inductive RenderedTag : Tag → Prop
  | opening {name : List Char} : name ∈ elementNames → RenderedTag (.opening name [])
  | stop {name : List Char} : name ∈ linkName :: elementNames → RenderedTag (.stop name)
  | single {name : List Char} : name ∈ ["br".toList, "hr".toList] → RenderedTag (.single name [])
  | code {word : List Char} : '\n' ∉ word →
      RenderedTag (.opening "code".toList [.escaped "class" ("language-".toList ++ word)])
  | link {target : Target} : target.Sound → RenderedTag (target.linkTag [mark])
  | image {target : Target} : target.Sound → RenderedTag (target.imageTag [mark])

namespace Target

variable {target : Target} {others : List Attribute}

theorem linkAttributes_isEscaped (sound : target.Sound) (given : ∀ entry ∈ others, entry.IsEscaped) :
    ∀ entry ∈ target.linkAttributes others, entry.IsEscaped := by
  intro entry member
  simp only [linkAttributes, List.cons_append, List.mem_cons, List.mem_append, List.mem_map,
    List.not_mem_nil, or_false] at member
  rcases member with rfl | (⟨title, titled, rfl⟩ | member) | rfl | rfl
  · exact Attribute.escaped_isEscaped (by decide) sound.url_line
  · exact Attribute.escaped_isEscaped (by decide) (sound.title_line title (by simpa using titled))
  · exact given entry member
  · exact Attribute.escaped_isEscaped (by decide) (by decide)
  · exact Attribute.escaped_isEscaped (by decide) (by decide)

theorem imageAttributes_isEscaped (sound : target.Sound) (given : ∀ entry ∈ others, entry.IsEscaped) :
    ∀ entry ∈ target.imageAttributes others, entry.IsEscaped := by
  intro entry member
  simp only [imageAttributes, List.cons_append, List.nil_append, List.mem_cons] at member
  rcases member with rfl | rfl | rfl | member
  · exact Attribute.escaped_isEscaped (by decide) sound.url_line
  · exact Attribute.escaped_isEscaped (by decide) sound.label_line
  · refine Attribute.escaped_isEscaped (by decide) ?_
    cases title : target.title with
    | none => exact sound.label_line
    | some words => exact sound.title_line words title
  · exact given entry member

end Target

theorem mark_isEscaped : ∀ entry ∈ [mark], entry.IsEscaped := by
  simp only [List.mem_singleton, forall_eq]
  exact (by decide : Attribute.isName LinkTarget.marker = true)

theorem isName_of_mem_elementNames : ∀ name ∈ linkName :: elementNames, Tag.isName name = true := by
  decide

/-- A rendered tag is written from a name and escaped attributes. -/
theorem RenderedTag.isPlain {tag : Tag} (rendered : RenderedTag tag) : tag.IsPlain := by
  cases rendered with
  | opening member =>
    exact .opening (isName_of_mem_elementNames _ (List.mem_cons_of_mem _ member)) (by simp)
  | stop member => exact .stop (isName_of_mem_elementNames _ member)
  | single member =>
    refine .single ?_ (by simp)
    revert member
    exact (by decide : ∀ name ∈ ["br".toList, "hr".toList], Tag.isName name = true) _
  | code line =>
    refine .opening (by decide) ?_
    simp only [List.mem_singleton, forall_eq]
    exact Attribute.escaped_isEscaped (by decide) (by simp [line])
  | link sound => exact .opening (by decide) (Target.linkAttributes_isEscaped sound mark_isEscaped)
  | image sound => exact .single (by decide) (Target.imageAttributes_isEscaped sound mark_isEscaped)

end PostMarkup.Markdown
