import PostMarkup.Proofs.BBCode.Nested
import PostMarkup.Proofs.Emoji
import PostMarkup.Renderer

/-! # The stages after linking

Posts and biographies pass through the same two stages: shortcodes are replaced if that is wanted, and
bracket tags if they can be. Both stages keep any fragment whose model permits what they write.
-/

namespace PostMarkup.Renderer

variable {renderer : Renderer} {model : ContentModel} {outer : List (List Char)} {emojis : List CustomEmoji}
  {table : BBCode.Table} {markup : List Char}

/-- Shortcodes are replaced, or the markup is kept. -/
theorem fragment_showEmojiIf (wanted : Bool)
    (admits : Emoji.Admits model (.ofEmojis renderer.settings.animatedEmoji emojis))
    (fragment : Fragment model outer markup) : Fragment model outer (renderer.showEmojiIf wanted emojis markup) := by
  unfold showEmojiIf
  split
  · exact Emoji.fragment_replace admits fragment
  · exact fragment

/-- Bracket tags are replaced, or the markup is kept. -/
theorem fragment_replaceBrackets (sound : table.IsSound) (given : renderer.brackets = BBCode.render table)
    (admits : BBCode.AdmitsBrackets model) (fragment : Fragment model [] markup) :
    Fragment model [] (renderer.replaceBrackets markup) := by
  unfold replaceBrackets
  rw [given]
  split
  · rename_i rendered
    exact BBCode.fragment_of_render sound admits fragment rendered
  · exact fragment

/-- Markup without brackets outside its tags is kept. -/
theorem replaceBrackets_eq (given : renderer.brackets = BBCode.render table) (fragment : Fragment model [] markup)
    (clean : .char '[' ∉ pieces markup) : renderer.replaceBrackets markup = markup := by
  unfold replaceBrackets
  rw [given]
  split
  · rename_i rendered
    exact BBCode.eq_of_render fragment.isBalanced clean rendered
  · rfl

/-- Markup with brackets in preformatted text and code only is kept. -/
theorem replaceBrackets_of_copied (given : renderer.brackets = BBCode.render table)
    (fragment : Fragment model [] markup)
    (copied : ∀ outer, model.char outer '[' → ∃ name ∈ outer, name ∈ BBCode.State.copiedElements) :
    renderer.replaceBrackets markup = markup := by
  unfold replaceBrackets
  rw [given]
  split
  · rename_i rendered
    exact BBCode.eq_of_render_fragment fragment copied rendered
  · rfl

end PostMarkup.Renderer
