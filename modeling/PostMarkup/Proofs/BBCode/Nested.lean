import PostMarkup.Proofs.BBCode.Structure

/-! # Bracket tags in nested markup

Rendering replaces pairs of brackets by elements. In a fragment the pairs are nested in the elements
around them, so the output is a fragment too, if the model permits the new elements wherever it
permits brackets.
-/

namespace PostMarkup

variable {model : ContentModel} {base opened outer final : List (List Char)} {parts : List Piece}
  {markup : List Char}

/-- A walk opens and closes elements as its tags do. -/
theorem Walk.elementsAfter?_eq (walk : Walk model base opened parts final) :
    elementsAfter? opened parts = some final := by
  induction walk with
  | stop => rfl
  | char _ _ _ ih => exact ih
  | void _ void _ _ ih => rw [elementsAfter?, Tag.step?_single ⟨void.1, .inr void.2⟩, Option.bind_some, ih]
  | enter _ opens _ _ ih => rw [elementsAfter?, Tag.step?_opens opens, Option.bind_some, ih]
  | leave _ closes _ _ ih => rw [elementsAfter?, Tag.step?_closes closes, Option.bind_some, ih]

/-- Fragments are balanced. -/
theorem Fragment.isBalanced (fragment : Fragment model outer markup) : IsBalanced markup :=
  (nested_iff_walk.mp fragment).elementsAfter?_eq

namespace BBCode

/-- Whether a model permits the elements of bracket tags wherever it permits brackets. -/
def AdmitsBrackets (model : ContentModel) : Prop :=
  ∀ outer opening closing text, model.char outer '[' → Encloses opening closing →
    Fragment model outer text → Fragment model outer (opening ++ (text ++ closing))

/-- The elements of bracket tags may be put around a text if their tags are permitted there and the text is
permitted in them. -/
theorem admitsBrackets_of
    (tags : ∀ outer (tag : Tag), model.char outer '[' → tag.IsCarried → tag.name ∈ bracketNames →
      model.tag outer tag)
    (inside : ∀ outer name text, model.char outer '[' → name ∈ bracketNames → Fragment model outer text →
      Fragment model (name :: outer) text) : AdmitsBrackets model := by
  intro outer opening closing text permitted encloses fragment
  obtain ⟨name, attributes, known, given, rfl, rfl⟩ := encloses
  have facts : ∀ name ∈ bracketNames, Tag.isName name = true ∧ name ∉ voidNames := by decide
  obtain ⟨named, normal⟩ := facts name known
  apply Fragment.enclosed named normal given
  · rintro tag carried rfl
    exact tags outer tag permitted carried known
  · exact inside outer name text permitted known fragment

/-- Characters are passed in a walk, and are permitted where they stand. -/
theorem walk_of_chars {text : List Char} (walk : Walk model base opened (text.map .char ++ parts) final) :
    Walk model base opened parts final ∧ ∀ c ∈ text, model.char (opened ++ base) c := by
  induction text with
  | nil => exact ⟨walk, by simp⟩
  | cons c rest ih =>
    cases walk with
    | char _ permitted walk =>
      obtain ⟨later, others⟩ := ih walk
      exact ⟨later, List.forall_mem_cons.mpr ⟨permitted, others⟩⟩

variable {table : Table} {around : List (List Char)} {out : List Char}

/-- Where pairs are replaced in the pieces of a walk, all elements that are opened are closed, and the output
is a fragment. -/
theorem Replaced.fragment (sound : table.IsSound) (admits : AdmitsBrackets model)
    (replaced : Replaced table around parts out) (walk : Walk model base opened parts final) :
    final = opened ∧ Fragment model (opened ++ base) out := by
  induction replaced generalizing opened final with
  | nil =>
    cases walk
    exact ⟨rfl, .nil⟩
  | char _ ih =>
    cases walk with
    | char differs permitted walk =>
      obtain ⟨same, fragment⟩ := ih walk
      exact ⟨same, .cons differs permitted fragment⟩
  | single single _ ih =>
    cases walk with
    | void written isVoid permitted walk =>
      obtain ⟨same, fragment⟩ := ih walk
      exact ⟨same, (Fragment.void written isVoid permitted).append fragment⟩
    | enter _ opens _ _ =>
      rcases single.2 with slash | listed
      · exact absurd slash (by simp [opens.2.1])
      · exact absurd listed opens.2.2
    | leave _ closes _ _ => exact absurd closes (by simp [single.1])
  | @element _ first last body rest content out opens closes same _ _ ihBody ihRest =>
    cases walk with
    | void _ isVoid _ _ => exact absurd isVoid.2 opens.2.2
    | leave _ closes _ _ => exact absurd closes (by simp [opens.1])
    | enter written _ permitted walk =>
      obtain ⟨middle, inner, ended⟩ := walk.split
      obtain ⟨rfl, fragment⟩ := ihBody inner
      generalize entered : first.name :: opened = elements at ended
      cases ended with
      | void _ isVoid _ _ => exact absurd closes (by simp [isVoid.1])
      | enter _ opens _ _ => exact absurd closes (by simp [opens.1])
      | leave written' _ permitted' walk =>
        obtain ⟨_, rfl⟩ := List.cons.inj entered
        obtain ⟨rfl, fragment'⟩ := ihRest walk
        have whole := Fragment.element written written' opens closes same permitted permitted' fragment
        refine ⟨rfl, ?_⟩
        simpa only [List.append_assoc] using whole.append fragment'
  | @pair _ definition first last body rest content out _ pairs _ _ ihBody ihRest =>
    obtain ⟨writtenFirst, _, listed, _⟩ := pairs.opens
    obtain ⟨front, bracket⟩ := List.head?_eq_some_iff.mp writtenFirst.head?
    obtain ⟨begun, permitted⟩ := walk_of_chars walk
    obtain ⟨middle, inner, ended⟩ := begun.split
    obtain ⟨rfl, fragment⟩ := ihBody inner
    obtain ⟨rfl, fragment'⟩ := ihRest (walk_of_chars ended).1
    have permitted : model.char (final ++ base) '[' := permitted '[' (bracket ▸ List.mem_cons_self)
    have whole := admits _ _ _ _ permitted (sound _ _ listed _ pairs.takes) fragment
    refine ⟨rfl, ?_⟩
    simpa only [List.append_assoc] using whole.append fragment'

/-- Where brackets stand in preformatted text and code only, no pair is replaced in the pieces of a walk, and
all elements that are opened are closed. -/
theorem Replaced.eq_sourceOf_of_walk
    (copied : ∀ outer, model.char outer '[' → ∃ name ∈ outer, name ∈ State.copiedElements)
    (replaced : Replaced table around parts out) (walk : Walk model base opened parts final)
    (same : around = opened ++ base) : final = opened ∧ out = sourceOf parts := by
  induction replaced generalizing opened final with
  | nil =>
    cases walk
    exact ⟨rfl, rfl⟩
  | char _ ih =>
    cases walk with
    | char _ _ walk =>
      obtain ⟨closed, rfl⟩ := ih walk same
      exact ⟨closed, rfl⟩
  | single single _ ih =>
    cases walk with
    | void _ _ _ walk =>
      obtain ⟨closed, rfl⟩ := ih walk same
      exact ⟨closed, rfl⟩
    | enter _ opens _ _ =>
      rcases single.2 with slash | listed
      · exact absurd slash (by simp [opens.2.1])
      · exact absurd listed opens.2.2
    | leave _ closes _ _ => exact absurd closes (by simp [single.1])
  | @element _ first last body rest content out opens closes named _ _ ihBody ihRest =>
    cases walk with
    | void _ isVoid _ _ => exact absurd isVoid.2 opens.2.2
    | leave _ closes _ _ => exact absurd closes (by simp [opens.1])
    | enter _ _ _ walk =>
      obtain ⟨middle, inner, ended⟩ := walk.split
      obtain ⟨rfl, rfl⟩ := ihBody inner (by simp [same])
      generalize entered : first.name :: opened = elements at ended
      cases ended with
      | void _ isVoid _ _ => exact absurd closes (by simp [isVoid.1])
      | enter _ opens _ _ => exact absurd closes (by simp [opens.1])
      | leave _ _ _ walk =>
        obtain ⟨_, rfl⟩ := List.cons.inj entered
        obtain ⟨rfl, rfl⟩ := ihRest walk same
        simp [Piece.source]
  | pair free pairs _ _ _ _ =>
    obtain ⟨front, bracket⟩ := List.head?_eq_some_iff.mp pairs.opens.1.head?
    have permitted := (walk_of_chars walk).2 '[' (bracket ▸ List.mem_cons_self)
    obtain ⟨name, inside, literal⟩ := copied _ permitted
    exact absurd literal (free name (same ▸ inside))

/-- Replacing bracket tags leaves a fragment. -/
theorem fragment_of_render (sound : table.IsSound) (admits : AdmitsBrackets model)
    (fragment : Fragment model [] markup) (rendered : render table markup = .ok out) :
    Fragment model [] out := by
  have walk : Walk model [] [] (pieces markup) [] := nested_iff_walk.mp fragment
  exact ((replaced_of_render fragment.isBalanced rendered).fragment sound admits walk).2

/-- A fragment with brackets in preformatted text and code only is left as it is. -/
theorem eq_of_render_fragment (fragment : Fragment model [] markup)
    (copied : ∀ outer, model.char outer '[' → ∃ name ∈ outer, name ∈ State.copiedElements)
    (rendered : render table markup = .ok out) : out = markup := by
  have walk : Walk model [] [] (pieces markup) [] := nested_iff_walk.mp fragment
  rw [((replaced_of_render fragment.isBalanced rendered).eq_sourceOf_of_walk copied walk rfl).2, source_pieces]

end BBCode

end PostMarkup
