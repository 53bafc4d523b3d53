import PostMarkup.Proofs.Layout.Sequence
import PostMarkup.Proofs.LinkTarget.Carried

/-! # Paragraphs of nested markup

Text between blocks consists of characters and of inline elements that stand on one line. Cutting it
at its line feeds cuts no element, so each line is a fragment, and so is each paragraph.
-/

namespace PostMarkup.Layout

open PostMarkup.Text

def lineModel : ContentModel where
  tag outer tag := tag.IsCarried ∧ tag.name ∈ inlineNames ∧ LinksApart outer tag
  char _ c := c ≠ '\n'

/-- Carried tags in paragraphs and blocks. -/
def laidModel : ContentModel := laidOut Tag.IsCarried fun _ => True

/-- Characters and inline elements in any order. -/
inductive Lines (outer : List (List Char)) : List Char → Prop
  | nil : Lines outer []
  | char {c : Char} {rest : List Char} : c ≠ '<' → Lines outer rest → Lines outer (c :: rest)
  | inline {front rest : List Char} : Fragment lineModel outer front → front.getLast? = some '>' →
      Lines outer rest → Lines outer (front ++ rest)

variable {outer : List (List Char)} {text front rest : List Char} {parts : List Piece}

/-- Inline markup on one line holds no line feed. -/
theorem newline_not_mem_of_fragment (fragment : Fragment lineModel outer text) : '\n' ∉ text :=
  fragment.not_mem (fun _ permitted => permitted rfl) fun _ _ permitted => permitted.1.line

/-- Each line of inline markup is a fragment. -/
theorem fragment_of_mem_linesOf (lines : Lines outer text) : ∀ line ∈ linesOf text, Fragment lineModel outer line := by
  induction lines with
  | nil =>
    rw [linesOf_nil]
    exact List.forall_mem_singleton.mpr .nil
  | char differs _ ih => exact forall_mem_linesOf_cons .nil (fun newline _ => .cons differs newline) ih
  | inline fragment last _ ih =>
    exact forall_mem_linesOf_append (newline_not_mem_of_fragment fragment) (by simp [last]) (fun _ => fragment.append) ih

/-- A line break where its tag is permitted. -/
theorem fragment_lineBreak {model : ContentModel}
    (permitted : ∀ tag : Tag, tag.IsCarried → tag.name = "br".toList → model.tag outer tag) :
    Fragment model outer lineBreak := by
  have source : lineBreak = (Tag.single "br".toList []).source := by decide
  rw [source]
  apply Fragment.void
  · exact Tag.single_isWritten (by decide) (by simp)
  · exact Tag.single_isVoid (by decide)
  · exact permitted _ (Tag.single_isCarried (by decide) Attribute.ordinary_nil) rfl

theorem fragment_joinLines {model : ContentModel} {lines : List (List Char)}
    (broken : Fragment model outer lineBreak) (each : ∀ line ∈ lines, Fragment model outer line) :
    Fragment model outer (joinLines lines) := by
  fun_induction joinLines lines with
  | case1 => exact .nil
  | case2 line => exact each line List.mem_cons_self
  | case3 line next rest ih =>
    obtain ⟨first, others⟩ := List.forall_mem_cons.mp each
    refine (first.append ?_).append (ih others)
    split
    · exact .nil
    · exact broken

/-- Inline markup may stand wherever text may. -/
theorem laid_of_line {outer' : List (List Char)} (inside : host outer' ≠ none)
    (apart : linkName ∈ outer' → linkName ∈ outer) (fragment : Fragment lineModel outer text) :
    Fragment laidModel outer' text := by
  refine Nested.transport
    (fun before after => host after ≠ none ∧ (linkName ∈ after → linkName ∈ before)) ?_ ?_ ?_ fragment
    ⟨inside, apart⟩
  · rintro name before after ⟨inside, apart⟩
    obtain ⟨found, hosted⟩ := Option.ne_none_iff_exists'.mp inside
    refine ⟨?_, apart_grows name apart⟩
    simp [host_cons_of_some hosted]
  · rintro before after c _ ⟨inside, _⟩ permitted
    exact ⟨trivial, inside, fun same => absurd same permitted⟩
  · rintro before after tag ⟨inside, apart⟩ ⟨carried, inline, free⟩
    obtain ⟨found, hosted⟩ := Option.ne_none_iff_exists'.mp inside
    refine ⟨carried, fun same member => free same (apart member), ?_⟩
    rw [hosted]
    exact .inl inline

/-- A paragraph or a block quote in flow. -/
theorem fragment_layer {name : List Char} (flows : InFlow outer)
    (layer : name = quoteName ∨ name = paragraphName) (fragment : Fragment laidModel (name :: outer) text) :
    Fragment laidModel outer ((Tag.opening name []).source ++ (text ++ (Tag.stop name).source)) := by
  have known : ∀ name, name = quoteName ∨ name = paragraphName →
      Tag.isName name = true ∧ name ∉ voidNames ∧ name ≠ linkName := by
    rintro name (rfl | rfl) <;> decide
  obtain ⟨named, normal, other⟩ := known name layer
  apply Fragment.enclosed named normal Attribute.ordinary_nil _ fragment
  rintro tag carried rfl
  refine ⟨carried, fun link => absurd link other, ?_⟩
  rw [show host outer = none from flows]
  exact .inr layer

theorem paragraph_eq (text : List Char) : "<p>".toList ++ text ++ "</p>".toList =
    (Tag.opening paragraphName []).source ++ (text ++ (Tag.stop paragraphName).source) := by
  have opening : "<p>".toList = (Tag.opening paragraphName []).source := by decide
  have closing : "</p>".toList = (Tag.stop paragraphName).source := by decide
  rw [opening, closing, List.append_assoc]

/-- A paragraph in flow. -/
theorem fragment_paragraph (flows : InFlow outer) (fragment : Fragment lineModel outer text) :
    Fragment laidModel outer ("<p>".toList ++ text ++ "</p>".toList) := by
  rw [paragraph_eq]
  apply fragment_layer flows (.inr rfl)
  apply laid_of_line _ _ fragment
  · exact Option.ne_none_iff_exists'.mpr ⟨_, host_cons_of_none flows (by decide)⟩
  · intro member
    rcases List.mem_cons.mp member with same | member
    · exact absurd same (by decide)
    · exact member

/-- A line that is not blank is a paragraph. -/
theorem wrap_line (line : '\n' ∉ text) (filled : isBlankLine text = false) :
    wrap text = "<p>".toList ++ text ++ "</p>".toList := by
  rw [wrap, replaceAll_lineEnd_of_line line, splitAt_of_not_mem line, paragraphs, if_neg (by simp [filled])]
  simp [joinLines]

/-- Text between blocks becomes paragraphs. -/
theorem fragment_wrap (flows : InFlow outer) (lines : Lines outer text) :
    Fragment laidModel outer (wrap text) := by
  apply Fragment.flatMap
  intro paragraph member
  apply fragment_paragraph flows
  have broken : Fragment lineModel outer lineBreak := by
    apply fragment_lineBreak
    intro tag carried named
    have inline : "br".toList ∈ inlineNames ∧ "br".toList ≠ linkName := by decide
    exact ⟨carried, named ▸ inline.1, fun link => absurd (named.symm.trans link) inline.2⟩
  apply fragment_joinLines broken
  intro line inside
  exact fragment_of_mem_linesOf lines line (mem_of_mem_paragraphs member inside)

end PostMarkup.Layout
