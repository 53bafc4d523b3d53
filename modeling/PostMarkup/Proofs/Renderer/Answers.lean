import PostMarkup.Proofs.Entity.Rendered
import PostMarkup.Proofs.Renderer.WellFormed

/-! # Every post of this server has an answer

Two steps of rendering may fail. Replacing entities needs spans that lie in the markup, and all
entities of rendered markup have such spans. Restoring a link target needs a blank of one byte before
the marker, and the tags that are restored were written with one.
-/

namespace PostMarkup

open PostMarkup.LinkTarget PostMarkup.Markdown PostMarkup.Layout

variable {markup : List Char}

namespace LinkTarget

def restoreAddresses (tag : List Char) : List Char :=
  mapAddresses (fun value => escapeAttribute (Percent.decode value)) none tag

/-- Whether the blank before the marker of a marked tag takes one byte when the marker is dropped. -/
def IsNarrow (tag : List Char) : Prop :=
  ∀ before after, cutAtMarker? none none (restoreAddresses tag) = some (before, after) →
    ∃ front blank, before = front ++ [blank] ∧ blank.toNat < 0x80

theorem isNarrow_of_decodeTag {tag restored : List Char} (marked : isMarked tag = true)
    (decoded : decodeTag tag = .ok restored) : IsNarrow tag := by
  intro before after found
  rw [decodeTag, if_pos marked] at decoded
  obtain ⟨front, blank, same, _, narrow⟩ := narrow_of_dropMarker decoded found
  exact ⟨front, blank, same, narrow⟩

/-- The tags of a post that is shown can all be restored. -/
theorem isNarrow_of_shown {outer : List (List Char)} (fragment : Fragment shownModel outer markup)
    {source : List Char} (member : .tag source ∈ stretches markup) (marked : isMarked source = true) :
    IsNarrow source := by
  have compact : ∀ part ∈ pieces markup, part.IsCompact :=
    fragment.isCompact fun _ _ permitted => permitted.1.compact
  rw [← source_pieces markup, stretches_sourceOf compact] at member
  obtain ⟨part, inside, same⟩ := List.mem_map.mp member
  cases part with
  | char c => exact absurd same (by simp [Stretch.ofPiece])
  | tag tag =>
    obtain rfl := Stretch.tag.inj same
    obtain ⟨_, carried, _⟩ := Nested.exists_permitted fragment inside
    exact isNarrow_of_decodeTag marked (decodedSource_of_isCarried carried).1

end LinkTarget

namespace Renderer

/-- The words before the content of a status. -/
def leadOf (status : Status) : List Char :=
  (status.repeated.map fun repeated => repeatedLead repeated.author).getD []

theorem rendered_leadOf (status : Status) : RenderedFragment [] (leadOf status) := by
  unfold leadOf
  cases status.repeated with
  | none => exact .nil
  | some repeated => exact rendered_repeatedLead repeated.author

/-- Every post of this server has HTML. Each entity that is replaced has a span in the markup, and where
link targets are restored each marker follows a blank of one byte. -/
theorem statusHtml_answers (settings : Settings) (sanitizer : Sanitizer) (isAddress : List Char → Bool)
    (withEmoji : Bool)
    (status : Status) (isLocal : status.shown.isLocal = true) (lines : OnLines settings status.shown) :
    let renderer : Renderer := ⟨settings, sanitizer, isAddress, BBCode.render .builtin⟩
    let held := heldMarkup (leadOf status) status.shown
    (∃ html, renderer.statusHtml withEmoji status = .ok html) ∧
      (∀ entity ∈ Entity.extractRendered settings.linkBareDomains held,
        entity.span.start < entity.span.stop ∧ entity.span.stop ≤ held.length) ∧
      ∃ ready, renderer.readyMarkup withEmoji (leadOf status) status.shown = .ok ready ∧
        ∀ source, .tag source ∈ stretches ready → isMarked source = true → IsNarrow source := by
  intro renderer held
  have builtin : renderer.brackets = BBCode.render .builtin := rfl
  obtain ⟨ready, succeeded, shown⟩ :=
    fragment_readyMarkup BBCode.isSound_builtin builtin lines (rendered_leadOf status) withEmoji
  obtain ⟨html, decoded, _⟩ := fragment_decode shown
  refine ⟨?_, fun _ => Entity.bounds_of_mem_extractRendered, ready, succeeded, fun _ => isNarrow_of_shown shown⟩
  unfold statusHtml
  simp only [isLocal, if_true]
  split
  · exact ⟨[], rfl⟩
  · refine ⟨html, ?_⟩
    rw [← leadOf, localHtml_eq, succeeded]
    exact decoded

/-- A repeated post with a link whose title holds the word of the marker after an ideographic space. -/
theorem statusHtml_answers_wide :
    let author := Account.onThisServer "bob".toList "https://localhost/@bob".toList
    let text := "[#x](https://a.b/@bob \"c\u3000data-md-link d\") :cat:".toList
    let emoji : CustomEmoji := ⟨"cat".toList, "/cat.gif".toList, "/cat.png".toList⟩
    let post : Post := ⟨text, [], true, author, [], [emoji]⟩
    let renderer : Renderer := ⟨{}, fun _ html => .ok html, Url.isAbsolute, BBCode.render .builtin⟩
    let held := heldMarkup (leadOf ⟨post, some post⟩) post
    post.isLocal = true ∧ OnLines {} post ∧
      (∃ html, renderer.statusHtml true ⟨post, some post⟩ = .ok html) ∧
      (∀ entity ∈ Entity.extractRendered false held,
        entity.span.start < entity.span.stop ∧ entity.span.stop ≤ held.length) ∧
      ∃ ready, renderer.readyMarkup true (leadOf ⟨post, some post⟩) post = .ok ready ∧
        ∀ source, .tag source ∈ stretches ready → isMarked source = true → IsNarrow source := by
  intro author text emoji post renderer held
  have lines : OnLines {} post := by
    constructor
    · decide
    · decide
    · decide
  exact ⟨rfl, lines, statusHtml_answers {} _ Url.isAbsolute true ⟨post, some post⟩ rfl lines⟩

end Renderer

end PostMarkup
