import Mathlib.Data.List.Infix
import PostMarkup.LinkTarget
import PostMarkup.Proofs.Markup.Attribute

/-! # Where a tag carries the marker

The marker is looked for outside quotes and after a blank. It is passed by no attribute of another
name, so a tag that is written from attributes is marked when the marker is one of them.
-/

namespace PostMarkup.LinkTarget

open PostMarkup.Text

def prepend (text : List Char) (cut : List Char × List Char) : List Char × List Char :=
  (text ++ cut.1, cut.2)

@[simp] theorem map_prepend_nil (cut : Option (List Char × List Char)) :
    cut.map (prepend []) = cut := by
  cases cut <;> rfl

@[simp] theorem prepend_comp (left right : List Char) :
    prepend left ∘ prepend right = prepend (left ++ right) := by
  funext cut
  simp [prepend]

/-- Of the character before a text only matters whether it is blank. -/
theorem cutAtMarker?_congr {quote left right : Option Char}
    (same : left.any isBlank = right.any isBlank) (text : List Char) :
    cutAtMarker? quote left text = cutAtMarker? quote right text := by
  cases text with
  | nil => rfl
  | cons c rest => simp only [cutAtMarker?, same]

/-- The character before a marker at which a text is cut is blank. -/
theorem blank_of_cutAtMarker? {quote previous : Option Char} {text before after : List Char}
    (found : cutAtMarker? quote previous text = some (before, after)) :
    (before.getLast?.or previous).any isBlank = true := by
  induction text generalizing quote previous before with
  | nil => exact absurd found (by simp [cutAtMarker?])
  | cons c rest ih =>
    have further {quote : Option Char} (found : (cutAtMarker? quote (some c) rest).map
        (prepend [c]) = some (before, after)) :
        (before.getLast?.or previous).any isBlank = true := by
      obtain ⟨⟨front, _⟩, cut, same⟩ := Option.map_eq_some_iff.mp found
      obtain ⟨rfl, rfl⟩ := Prod.mk.inj same
      have blank := ih cut
      cases last : front.getLast? <;> simpa [List.getLast?_cons, last] using blank
    unfold cutAtMarker? at found
    simp only at found
    split at found
    · exact further found
    · split at found
      · exact further found
      · split at found
        · rename_i marked
          split at found
          · cases found
            split at marked
            · simpa
            · exact absurd marked (by simp)
          · exact further found
        · exact further found

/-- Where a marker is dropped, the blank before it takes one byte. -/
theorem narrow_of_dropMarker {tag before after dropped : List Char} (restored : dropMarker tag = .ok dropped)
    (found : cutAtMarker? none none tag = some (before, after)) :
    ∃ front blank, before = front ++ [blank] ∧ isBlank blank = true ∧ blank.toNat < 0x80 := by
  have blank := blank_of_cutAtMarker? found
  rcases List.eq_nil_or_concat before with rfl | ⟨front, c, rfl⟩
  · exact absurd blank (by simp)
  · rw [List.concat_eq_append] at found blank ⊢
    refine ⟨front, c, rfl, by simpa using blank, ?_⟩
    unfold dropMarker at restored
    simp only [found, List.getLast?_concat] at restored
    split at restored
    · assumption
    · exact absurd restored (by simp)

variable {text rest value name : List Char}

/-- A character that is neither a quote nor after a blank is passed. -/
theorem cutAtMarker?_cons {c : Char} (unquoted : c ≠ '"' ∧ c ≠ '\'') (rest : List Char) :
    cutAtMarker? none none (c :: rest) =
      (cutAtMarker? none (some c) rest).map (prepend [c]) := by
  simp only [cutAtMarker?, unquoted, or_self, if_false, Option.any_none, Bool.false_eq_true]
  rfl

/-- A text without quotes and blanks is passed. -/
theorem cutAtMarker?_solid (solid : ∀ c ∈ text, c ≠ '"' ∧ c ≠ '\'' ∧ isBlank c = false)
    (rest : List Char) : cutAtMarker? none none (text ++ rest) =
      (cutAtMarker? none none rest).map (prepend text) := by
  induction text with
  | nil => simp
  | cons c others ih =>
    obtain ⟨⟨double, single, notBlank⟩, further⟩ := List.forall_mem_cons.mp solid
    have same : (some c).any isBlank = (none : Option Char).any isBlank := by simpa using notBlank
    rw [List.cons_append, cutAtMarker?_cons ⟨double, single⟩, cutAtMarker?_congr same, ih further]
    simp

theorem cutAtMarker?_value (clean : '"' ∉ value) {previous : Option Char} :
    cutAtMarker? (some '"') previous (value ++ '"' :: rest) =
      (cutAtMarker? none none rest).map (prepend (value ++ ['"'])) := by
  induction value generalizing previous with
  | nil =>
    have same : (some '"').any isBlank = (none : Option Char).any isBlank := by decide
    simp only [List.nil_append, cutAtMarker?, if_true]
    rw [cutAtMarker?_congr same]
    rfl
  | cons c others ih =>
    simp only [List.mem_cons, not_or] at clean
    simp only [List.cons_append, cutAtMarker?, Ne.symm clean.1, if_false, ih clean.2]
    cases cutAtMarker? none none rest <;> rfl

/-- A text between double quotes is passed. -/
theorem cutAtMarker?_quoted (clean : '"' ∉ value) (rest : List Char) :
    cutAtMarker? none none ('"' :: (value ++ '"' :: rest)) =
      (cutAtMarker? none none rest).map (prepend ('"' :: (value ++ ['"']))) := by
  have inside : cutAtMarker? none none ('"' :: (value ++ '"' :: rest)) =
      (cutAtMarker? (some '"') (some '"') (value ++ '"' :: rest)).map (prepend ['"']) := rfl
  rw [inside, cutAtMarker?_value clean]
  simp

/-- The marker is found after a space. -/
theorem cutAtMarker?_marker (ends : rest.head?.any endsMarker = true) :
    cutAtMarker? none none (' ' :: (marker ++ rest)) = some ([' '], rest) := by
  have found : cutAtMarker? none (some ' ') (marker ++ rest) = some ([], rest) := by
    have after : marker.isPrefixOf? (marker ++ rest) = some rest := rfl
    have cut : cutAtMarker? none (some ' ') (marker ++ rest) =
        if rest.head?.any endsMarker then some ([], rest) else
          (cutAtMarker? none (some 'd') (marker.tail ++ rest)).map (prepend ['d']) := rfl
    rw [cut, if_pos ends]
  rw [cutAtMarker?_cons (by decide), found]
  rfl

theorem endsMarker_of_mem (named : Attribute.isName name = true) {c : Char} (member : c ∈ name) :
    endsMarker c = false := by
  rw [Bool.eq_false_iff]
  intro ends
  simp only [endsMarker, Bool.or_eq_true, decide_eq_true_eq] at ends
  rcases ends with ((rfl | rfl) | rfl) | rfl
  all_goals exact Attribute.not_mem_of_isName named (by decide) member

/-- The name of another attribute is no marker. -/
theorem not_endsMarker_of_isName (named : Attribute.isName name = true) (differs : name ≠ marker)
    (ends : rest.head?.any endsMarker = true) {after : List Char}
    (found : marker.isPrefixOf? (name ++ rest) = some after) :
    after.head?.any endsMarker = false := by
  have whole : marker ++ after = name ++ rest := List.isPrefixOf?_eq_some_iff_append_eq.mp found
  rcases List.append_eq_append_iff.mp whole with ⟨more, same, rfl⟩ | ⟨more, same, rfl⟩
  · cases more with
    | nil => exact absurd (by simpa using same) differs
    | cons c others => simpa using endsMarker_of_mem named (by simp [same] : c ∈ name)
  · cases more with
    | nil => exact absurd (by simpa using same.symm) differs
    | cons c others =>
      have inside : c ∈ marker := by simp [same]
      have passed : endsMarker c = false :=
        endsMarker_of_mem (by decide : Attribute.isName marker = true) inside
      simp [passed] at ends

/-- An attribute name other than the marker is passed. -/
theorem cutAtMarker?_name (named : Attribute.isName name = true) (differs : name ≠ marker)
    (ends : rest.head?.any endsMarker = true) : cutAtMarker? none none (' ' :: (name ++ rest)) =
      (cutAtMarker? none none rest).map (prepend (' ' :: name)) := by
  have solid : ∀ c ∈ name, c ≠ '"' ∧ c ≠ '\'' ∧ isBlank c = false := by
    intro c member
    refine ⟨?_, ?_, ?_⟩
    · rintro rfl
      exact Attribute.not_mem_of_isName named (by decide) member
    · rintro rfl
      exact Attribute.not_mem_of_isName named (by decide) member
    · exact Attribute.isBlank_of_isName named member
  rw [cutAtMarker?_cons (by decide)]
  cases name with
  | nil => simp [Attribute.isName] at named
  | cons c others =>
    obtain ⟨⟨double, single, notBlank⟩, further⟩ := List.forall_mem_cons.mp solid
    have same : (some c).any isBlank = (none : Option Char).any isBlank := by simpa using notBlank
    have passed : cutAtMarker? none (some ' ') (c :: (others ++ rest)) =
        (cutAtMarker? none (some c) (others ++ rest)).map (prepend [c]) := by
      simp only [cutAtMarker?, double, single, or_self, if_false]
      split
      · rename_i after found
        rw [if_neg]
        · rfl
        · have blank : (some ' ').any isBlank = true := by decide
          rw [if_pos blank] at found
          simp [not_endsMarker_of_isName named differs ends found]
      · rfl
    rw [List.cons_append, passed, cutAtMarker?_congr same, cutAtMarker?_solid further]
    simp

variable {attributes before after : List Attribute} {tail : List Char}

theorem head?_written_append (ends : tail.head?.any endsMarker = true) :
    (Attribute.written attributes ++ tail).head?.any endsMarker = true := by
  cases attributes with
  | nil => exact ends
  | cons entry others => cases entry <;> rfl

/-- An attribute of another name with its value is passed. -/
theorem cutAtMarker?_valued (clean : Attribute.IsClean (.valued name value)) (differs : name ≠ marker)
    (rest : List Char) : cutAtMarker? none none ((Attribute.valued name value).source ++ rest) =
      (cutAtMarker? none none rest).map (prepend (Attribute.valued name value).source) := by
  have solid : ∀ c ∈ ['='], c ≠ '"' ∧ c ≠ '\'' ∧ isBlank c = false := by decide
  have passed := cutAtMarker?_name clean.1 differs
    (rfl : ('=' :: '"' :: (value ++ '"' :: rest)).head?.any endsMarker = true)
  have equals := cutAtMarker?_solid solid ('"' :: (value ++ '"' :: rest))
  simp only [List.cons_append, List.nil_append] at equals
  have shape : (Attribute.valued name value).source ++ rest =
      ' ' :: (name ++ '=' :: '"' :: (value ++ '"' :: rest)) := by
    simp [Attribute.source]
  rw [shape, passed, equals, cutAtMarker?_quoted clean.2.1]
  simp [Attribute.source]

/-- Attributes of other names are passed; what follows them matters only after a name. -/
theorem cutAtMarker?_written
    (others : ∀ entry ∈ attributes, entry.IsClean ∧ entry.name ≠ marker)
    (ends : tail.head?.any endsMarker = true ∨ ∀ name, .flag name ∉ attributes) :
    cutAtMarker? none none (Attribute.written attributes ++ tail) =
      (cutAtMarker? none none tail).map (prepend (Attribute.written attributes)) := by
  induction attributes with
  | nil => simp
  | cons entry further ih =>
    obtain ⟨⟨clean, differs⟩, rest⟩ := List.forall_mem_cons.mp others
    have later := ih rest (ends.imp_right fun valued name member =>
      valued name (List.mem_cons_of_mem _ member))
    rw [Attribute.written_cons, List.append_assoc]
    cases entry with
    | flag name =>
      have ends' := ends.resolve_right fun valued => valued name (List.mem_cons_self ..)
      rw [Attribute.source_flag, List.cons_append,
        cutAtMarker?_name clean differs (head?_written_append ends'), later]
      simp
    | valued name value =>
      rw [cutAtMarker?_valued clean differs, later]
      simp

/-- The name of an element holds no quotes and no blanks. -/
theorem solid_name {name : List Char} (named : Tag.isName name = true) :
    ∀ c ∈ name, c ≠ '"' ∧ c ≠ '\'' ∧ isBlank c = false := by
  intro c member
  refine ⟨?_, ?_, ?_⟩
  · rintro rfl
    exact Tag.not_mem_of_isName named (by decide) member
  · rintro rfl
    exact Tag.not_mem_of_isName named (by decide) member
  · rw [Bool.eq_false_iff]
    intro blank
    exact Tag.not_mem_of_isName named (not_isAlphanum_of_isBlank blank) member

theorem cutAtMarker?_lead {name : List Char} (named : Tag.isName name = true) (rest : List Char) :
    cutAtMarker? none none ('<' :: (name ++ rest)) =
      (cutAtMarker? none none rest).map (prepend ('<' :: name)) := by
  rw [← List.cons_append]
  exact cutAtMarker?_solid (List.forall_mem_cons.mpr ⟨by decide, solid_name named⟩) rest

/-- A closing tag is not marked. -/
theorem isMarked_stop {name : List Char} (named : Tag.isName name = true) :
    isMarked (Tag.stop name).source = false := by
  have solid : ∀ c ∈ '<' :: '/' :: name, c ≠ '"' ∧ c ≠ '\'' ∧ isBlank c = false :=
    List.forall_mem_cons.mpr ⟨by decide, List.forall_mem_cons.mpr ⟨by decide, solid_name named⟩⟩
  have passed : cutAtMarker? none none ['>'] = none := by decide
  have shape : (Tag.stop name).source = '<' :: '/' :: name ++ ['>'] := rfl
  rw [isMarked, shape, cutAtMarker?_solid solid, passed]
  rfl

/-- A tag whose attributes have other names is not marked. -/
theorem isMarked_ended {name ending : List Char} (named : Tag.isName name = true)
    (others : ∀ entry ∈ attributes, entry.IsClean ∧ entry.name ≠ marker) (listed : ending ∈ Tag.endings) :
    isMarked (Tag.ended name attributes ending).source = false := by
  obtain ⟨ends, passed⟩ : (ending ++ ['>']).head?.any endsMarker = true ∧
      cutAtMarker? none none (ending ++ ['>']) = none := by
    revert listed
    exact (by decide : ∀ text ∈ Tag.endings, (text ++ ['>']).head?.any endsMarker = true ∧
      cutAtMarker? none none (text ++ ['>']) = none) ending
  have source : (Tag.ended name attributes ending).source =
      '<' :: (name ++ (Attribute.written attributes ++ (ending ++ ['>']))) := by
    simp [Tag.ended, Tag.start]
  rw [isMarked, source, cutAtMarker?_lead named, cutAtMarker?_written others (.inl ends), passed]
  rfl

/-- A marked tag is cut at its marker. -/
theorem cutAtMarker?_of_marked {name : List Char} (named : Tag.isName name = true)
    (others : ∀ entry ∈ before, entry.IsClean ∧ entry.name ≠ marker)
    (ends : tail.head?.any endsMarker = true) :
    cutAtMarker? none none ('<' :: (name ++ (Attribute.written before ++ ' ' :: (marker ++ tail)))) =
      some ('<' :: (name ++ (Attribute.written before ++ [' '])), tail) := by
  have space : (' ' :: (marker ++ tail)).head?.any endsMarker = true := rfl
  rw [cutAtMarker?_lead named, cutAtMarker?_written others (.inl space),
    cutAtMarker?_marker ends]
  simp [prepend]

theorem trimEnd_concat {front : List Char} {c : Char} (notBlank : isBlank c = false) :
    trimEnd (front ++ [c]) = front ++ [c] := by
  simp [trimEnd, dropEndWhile, notBlank]

/-- No blank stands before the space that separates an attribute. -/
theorem trimEnd_written {name : List Char} (named : Tag.isName name = true)
    (clean : ∀ entry ∈ before, entry.IsClean) :
    trimEnd ('<' :: (name ++ Attribute.written before)) =
      '<' :: (name ++ Attribute.written before) := by
  rcases List.eq_nil_or_concat before with rfl | ⟨others, last, rfl⟩
  · rcases List.eq_nil_or_concat name with rfl | ⟨front, c, rfl⟩
    · simp [Tag.isName] at named
    · have notBlank : isBlank c = false := by
        rw [Bool.eq_false_iff]
        intro blank
        exact Tag.not_mem_of_isName named (not_isAlphanum_of_isBlank blank) (by simp)
      have shape : '<' :: (front.concat c ++ Attribute.written []) = ('<' :: front) ++ [c] := by simp
      rw [shape, trimEnd_concat notBlank]
  · obtain ⟨front, c, source, _, notBlank⟩ := Attribute.source_eq_concat (clean last (by simp))
    have whole : '<' :: (name ++ Attribute.written (others.concat last)) =
        ('<' :: (name ++ (Attribute.written others ++ front))) ++ [c] := by simp [source]
    rw [whole, trimEnd_concat notBlank]

/-- Dropping the marker leaves the rest of a tag as it is. -/
theorem dropMarker_of_marked {name : List Char} (named : Tag.isName name = true)
    (others : ∀ entry ∈ before, entry.IsClean ∧ entry.name ≠ marker)
    (ends : tail.head?.any endsMarker = true) :
    dropMarker ('<' :: (name ++ (Attribute.written before ++ ' ' :: (marker ++ tail)))) =
      .ok ('<' :: (name ++ (Attribute.written before ++ tail))) := by
  have shape : '<' :: (name ++ (Attribute.written before ++ [' '])) =
      ('<' :: (name ++ Attribute.written before)) ++ [' '] := by simp
  have narrow : ' '.toNat < 0x80 := by decide
  unfold dropMarker
  rw [cutAtMarker?_of_marked named others ends, shape]
  simp only [List.getLast?_concat, List.dropLast_concat, if_pos narrow]
  rw [trimEnd_written named fun entry member => (others entry member).1]
  simp

end PostMarkup.LinkTarget
