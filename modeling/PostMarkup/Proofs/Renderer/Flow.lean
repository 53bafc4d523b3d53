import PostMarkup.Proofs.LinkTarget.Carried

/-! # Posts before paragraphs are made

While link targets are held and before paragraphs are made, a post is a fragment in flow. Inline
elements may be written anywhere in it, links only outside links.
-/

namespace PostMarkup

open PostMarkup.Text

/-- Carried tags in flow. -/
def postModel : ContentModel := flow Tag.IsCarried fun _ => True

variable {outer : List (List Char)} {text markup name : List Char} {attributes : List Attribute}

namespace Fragment

/-- Text on one line. -/
theorem line (line : '\n' ∉ text) : Fragment postModel outer (escapeText text) := by
  apply of_chars
  intro c member
  have clean := (not_mem_escapeText text).1
  refine ⟨fun same => clean (same ▸ member), trivial, ?_⟩
  rintro rfl
  exact absurd (mem_of_mem_escapeText member (by decide) (by decide)) line

theorem postModel_tag {tag : Tag} (carried : tag.IsCarried) (inline : tag.name ∈ inlineNames)
    (apart : LinksApart outer tag) : postModel.tag outer tag :=
  flow_tag_of_inline carried carried.line apart inline

/-- An inline element with a content. -/
theorem inline (named : Tag.isName name = true) (inline : name ∈ inlineNames)
    (normal : name ∉ voidNames) (given : Attribute.Ordinary attributes)
    (apart : name = linkName → linkName ∉ outer) (inside : Fragment postModel (name :: outer) markup) :
    Fragment postModel outer ((Tag.opening name attributes).source ++ (markup ++ (Tag.stop name).source)) := by
  apply enclosed named normal given _ inside
  rintro tag carried rfl
  exact postModel_tag carried inline apart

/-- An inline element that consists of one tag. -/
theorem inlineVoid (named : Tag.isName name = true) (inline : name ∈ inlineNames)
    (isVoid : name ∈ voidNames) (given : Attribute.Ordinary attributes) (other : name ≠ linkName) :
    Fragment postModel outer (Tag.single name attributes).source := by
  apply void
  · exact Tag.single_isWritten named fun entry member => (given entry member).1.isClean
  · exact Tag.single_isVoid isVoid
  · exact postModel_tag (Tag.single_isCarried named given) inline fun same => absurd same other

end Fragment

end PostMarkup
