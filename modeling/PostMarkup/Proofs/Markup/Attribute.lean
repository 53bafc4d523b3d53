import PostMarkup.Proofs.Markup.TagForm
import PostMarkup.Proofs.Reference

/-! # Attributes

An attribute is a name, or a name with a value between double quotes. A tag written from clean
attributes, whose values hold no double quote and no angle bracket, reads back, and the only angle
brackets in it are those at its ends.
-/

namespace PostMarkup

open PostMarkup.Text

/-- An attribute of a tag, with its value as it is written. -/
inductive Attribute where
  | flag (name : List Char)
  | valued (name value : List Char)
deriving DecidableEq, Repr

namespace Attribute

def source : Attribute → List Char
  | flag name => ' ' :: name
  | valued name value => ' ' :: name ++ "=\"".toList ++ value ++ ['"']

/-- Whether a text is the name of an attribute: small letters and hyphens. -/
def isName (name : List Char) : Bool :=
  !name.isEmpty && name.all fun c => ('a' ≤ c && c ≤ 'z') || c = '-'

/-- Whether an attribute has a proper name and its value stays between its quotes and in its
tag. -/
def IsClean : Attribute → Prop
  | flag name => isName name = true
  | valued name value => isName name = true ∧ '"' ∉ value ∧ '<' ∉ value ∧ '>' ∉ value

def name : Attribute → List Char
  | flag name => name
  | valued name _ => name

def written (attributes : List Attribute) : List Char := attributes.flatMap source

@[simp] theorem written_nil : written [] = [] := rfl

@[simp] theorem written_cons (entry : Attribute) (rest : List Attribute) :
    written (entry :: rest) = entry.source ++ written rest := rfl

@[simp] theorem written_append (left right : List Attribute) :
    written (left ++ right) = written left ++ written right := by
  simp [written]

/-- The characters of a name are neither quotes nor angle brackets nor blanks. -/
theorem not_mem_of_isName {name : List Char} (named : isName name = true) {c : Char}
    (other : c.toNat < 'a'.toNat ∧ c ≠ '-') : c ∉ name := by
  intro member
  simp only [isName, Bool.and_eq_true, List.all_eq_true, Bool.or_eq_true, decide_eq_true_eq] at named
  rcases named.2 c member with letter | hyphen
  · have low : 'a'.toNat ≤ c.toNat := letter.1
    omega
  · exact other.2 hyphen

theorem isBlank_of_isName {name : List Char} (named : isName name = true) {c : Char}
    (member : c ∈ name) : isBlank c = false := by
  simp only [isName, Bool.and_eq_true, List.all_eq_true, Bool.or_eq_true, decide_eq_true_eq] at named
  rcases named.2 c member with letter | rfl
  · rw [Bool.eq_false_iff]
    intro blank
    have lower : c.isLower = true :=
      Bool.and_eq_true_iff.mpr ⟨decide_eq_true letter.1, decide_eq_true letter.2⟩
    have word : c.isAlphanum = true :=
      Bool.or_eq_true_iff.mpr (.inl (Bool.or_eq_true_iff.mpr (.inr lower)))
    simp [not_isAlphanum_of_isBlank blank] at word
  · decide

theorem quotesClosed_of_plain {text : List Char}
    (plain : ∀ c ∈ text, c ≠ '<' ∧ c ≠ '>' ∧ c ≠ '"' ∧ c ≠ '\'') :
    Tag.quotesClosed none text = true := by
  induction text with
  | nil => rfl
  | cons c rest ih =>
    obtain ⟨first, others⟩ := List.forall_mem_cons.mp plain
    simp [Tag.quotesClosed, first, ih others]

theorem quotesClosed_name {name : List Char} (named : isName name = true) :
    Tag.quotesClosed none (' ' :: name) = true := by
  apply quotesClosed_of_plain
  intro c member
  rcases List.mem_cons.mp member with rfl | member
  · decide
  · refine ⟨?_, ?_, ?_, ?_⟩
    all_goals
      rintro rfl
      exact not_mem_of_isName named (by decide) member

theorem quotesClosed_source {entry : Attribute} (clean : entry.IsClean) :
    Tag.quotesClosed none entry.source = true := by
  cases entry with
  | flag name => exact quotesClosed_name clean
  | valued name value =>
    have quoted : Tag.quotesClosed none ("=\"".toList ++ (value ++ ['"'])) = true := by
      change Tag.quotesClosed (some '"') (value ++ '"' :: []) = true
      rw [Tag.quotesClosed_value clean.2.1]
      rfl
    have both := Tag.quotesClosed_append (quotesClosed_name clean.1) quoted
    simpa [source] using both

variable {attributes : List Attribute}

theorem quotesClosed_written (clean : ∀ entry ∈ attributes, entry.IsClean) :
    Tag.quotesClosed none (written attributes) = true := by
  induction attributes with
  | nil => rfl
  | cons entry rest ih =>
    obtain ⟨first, others⟩ := List.forall_mem_cons.mp clean
    exact Tag.quotesClosed_append (quotesClosed_source first) (ih others)

theorem not_angle_of_clean {entry : Attribute} (clean : entry.IsClean) :
    '<' ∉ entry.source ∧ '>' ∉ entry.source := by
  cases entry with
  | flag name =>
    have less := not_mem_of_isName clean (c := '<') (by decide)
    have greater := not_mem_of_isName clean (c := '>') (by decide)
    simp [source, less, greater]
  | valued name value =>
    have less := not_mem_of_isName clean.1 (c := '<') (by decide)
    have greater := not_mem_of_isName clean.1 (c := '>') (by decide)
    simp [source, less, greater, clean.2.2.1, clean.2.2.2]

theorem not_angle_of_written (clean : ∀ entry ∈ attributes, entry.IsClean) :
    '<' ∉ written attributes ∧ '>' ∉ written attributes := by
  simp only [written, List.mem_flatMap, not_exists, not_and]
  exact ⟨fun entry member => (not_angle_of_clean (clean entry member)).1,
    fun entry member => (not_angle_of_clean (clean entry member)).2⟩

/-- The last character of a clean attribute is neither a slash nor a blank. -/
theorem source_eq_concat {entry : Attribute} (clean : entry.IsClean) :
    ∃ before c, entry.source = before ++ [c] ∧ c ≠ '/' ∧ isBlank c = false := by
  cases entry with
  | flag name =>
    rcases List.eq_nil_or_concat name with rfl | ⟨before, c, rfl⟩
    · simp [IsClean, isName] at clean
    · refine ⟨' ' :: before, c, by simp [source], ?_, isBlank_of_isName clean (by simp)⟩
      rintro rfl
      exact not_mem_of_isName clean (c := '/') (by decide) (by simp)
  | valued name value =>
    exact ⟨' ' :: name ++ "=\"".toList ++ value, '"', rfl, by decide, by decide⟩

theorem head?_written (attributes : List Attribute) {rest : List Char}
    (ends : rest.head?.all Tag.endsName = true) :
    (written attributes ++ rest).head?.all Tag.endsName = true := by
  cases attributes with
  | nil => exact ends
  | cons entry others => cases entry <;> rfl

def escaped (name : String) (text : List Char) : Attribute :=
  .valued name.toList (escapeAttribute text)

@[simp] theorem source_flag (name : List Char) : (flag name).source = ' ' :: name := rfl

@[simp] theorem source_escaped (name : String) (text : List Char) :
    (escaped name text).source = writeAttribute name text := rfl

theorem escaped_isClean {name : String} (named : isName name.toList = true) (text : List Char) :
    (escaped name text).IsClean :=
  ⟨named, not_mem_escapeAttribute text⟩

/-- Whether the value of an attribute is an escaped text without a line feed. -/
def IsEscaped : Attribute → Prop
  | flag name => isName name = true
  | valued name value =>
    isName name = true ∧ ∃ text, '\n' ∉ text ∧ value = escapeAttribute text

theorem escaped_isEscaped {name : String} {text : List Char} (named : isName name.toList = true)
    (line : '\n' ∉ text) : (escaped name text).IsEscaped :=
  ⟨named, text, line, rfl⟩

namespace IsEscaped

variable {entry : Attribute}

theorem isClean (given : entry.IsEscaped) : entry.IsClean := by
  cases entry with
  | flag name => exact given
  | valued name value =>
    obtain ⟨named, text, _, rfl⟩ := given
    exact ⟨named, not_mem_escapeAttribute text⟩

theorem newline_not_mem (given : entry.IsEscaped) : '\n' ∉ entry.source := by
  cases entry with
  | flag name =>
    have word := not_mem_of_isName given (c := '\n') (by decide)
    simp [source, word]
  | valued name value =>
    obtain ⟨named, text, line, rfl⟩ := given
    have word := not_mem_of_isName named (c := '\n') (by decide)
    have value : '\n' ∉ escapeAttribute text :=
      fun member => line (mem_of_mem_escapeAttribute member (by decide))
    simp [source, word, value]

theorem referencesOnly (given : entry.IsEscaped) : ReferencesOnly entry.source := by
  cases entry with
  | flag name =>
    have word := not_mem_of_isName given (c := '&') (by decide)
    exact .of_not_mem (by simp [source, word])
  | valued name value =>
    obtain ⟨named, text, line, rfl⟩ := given
    have word := not_mem_of_isName named (c := '&') (by decide)
    have before : ReferencesOnly (' ' :: name ++ "=\"".toList) := .of_not_mem (by simp [word])
    exact (before.append (.escapeAttribute text)).append (.of_not_mem (by decide))

end IsEscaped

theorem newline_not_mem_written (given : ∀ entry ∈ attributes, entry.IsEscaped) :
    '\n' ∉ written attributes := by
  simp only [written, List.mem_flatMap, not_exists, not_and]
  intro entry member
  exact (given entry member).newline_not_mem

theorem referencesOnly_written (given : ∀ entry ∈ attributes, entry.IsEscaped) :
    ReferencesOnly (written attributes) := by
  induction attributes with
  | nil => exact .of_not_mem (by simp)
  | cons entry rest ih =>
    obtain ⟨first, others⟩ := List.forall_mem_cons.mp given
    exact first.referencesOnly.append (ih others)

end Attribute

namespace Tag

/-- Whether the only angle brackets in a tag are those at its ends. -/
def IsCompact (tag : Tag) : Prop :=
  ∃ inner, tag.source = '<' :: (inner ++ ['>']) ∧ '<' ∉ inner ∧ '>' ∉ inner

def opening (name : List Char) (attributes : List Attribute) : Tag :=
  start name (Attribute.written attributes)

def single (name : List Char) (attributes : List Attribute) : Tag :=
  start name (Attribute.written attributes ++ " /".toList)

/-- What may stand between the attributes of a tag and its last angle bracket. -/
def endings : List (List Char) := [[], " /".toList]

/-- An opening tag or the tag of a void element, by what stands after its attributes. -/
def ended (name : List Char) (attributes : List Attribute) (ending : List Char) : Tag :=
  start name (Attribute.written attributes ++ ending)

variable {name ending : List Char} {attributes : List Attribute}

theorem opening_eq (name : List Char) (attributes : List Attribute) :
    opening name attributes = ended name attributes [] := by
  rw [opening, ended, List.append_nil]

/-- The characters of a name are letters and digits. -/
theorem not_mem_of_isName (named : isName name = true) {c : Char} (other : c.isAlphanum = false) :
    c ∉ name := by
  intro member
  simp only [isName, Bool.and_eq_true, List.all_eq_true] at named
  simp [(named.2 c member).1] at other

theorem not_angle_of_isName (named : isName name = true) : '<' ∉ name ∧ '>' ∉ name :=
  ⟨not_mem_of_isName named (by decide), not_mem_of_isName named (by decide)⟩

theorem ended_isWritten (named : isName name = true) (clean : ∀ entry ∈ attributes, entry.IsClean)
    (listed : ending ∈ endings) : (ended name attributes ending).IsWritten := by
  obtain ⟨ends, closed⟩ : ending.head?.all endsName = true ∧ quotesClosed none ending = true := by
    revert listed
    exact (by decide : ∀ text ∈ endings, text.head?.all endsName = true ∧ quotesClosed none text = true) ending
  exact start_isWritten named (Attribute.head?_written attributes ends)
    (quotesClosed_append (Attribute.quotesClosed_written clean) closed)

theorem opening_isWritten (named : isName name = true)
    (clean : ∀ entry ∈ attributes, entry.IsClean) : (opening name attributes).IsWritten :=
  opening_eq name attributes ▸ ended_isWritten named clean (by decide)

theorem single_isWritten (named : isName name = true)
    (clean : ∀ entry ∈ attributes, entry.IsClean) : (single name attributes).IsWritten :=
  ended_isWritten named clean (by decide)

theorem not_mem_ending (listed : ending ∈ endings) {c : Char} (other : c ∉ " /".toList) : c ∉ ending :=
  fun member => other ((by decide : ∀ text ∈ endings, ∀ c ∈ text, c ∈ " /".toList) ending listed c member)

theorem ended_isCompact (named : isName name = true) (clean : ∀ entry ∈ attributes, entry.IsClean)
    (listed : ending ∈ endings) : (ended name attributes ending).IsCompact := by
  obtain ⟨less, greater⟩ := not_angle_of_isName named
  obtain ⟨less', greater'⟩ := Attribute.not_angle_of_written clean
  refine ⟨name ++ (Attribute.written attributes ++ ending), by simp [ended, start], ?_, ?_⟩
  · simp [less, less', not_mem_ending listed (by decide : '<' ∉ " /".toList)]
  · simp [greater, greater', not_mem_ending listed (by decide : '>' ∉ " /".toList)]

theorem opening_isCompact (named : isName name = true)
    (clean : ∀ entry ∈ attributes, entry.IsClean) : (opening name attributes).IsCompact :=
  opening_eq name attributes ▸ ended_isCompact named clean (by decide)

theorem single_isCompact (named : isName name = true)
    (clean : ∀ entry ∈ attributes, entry.IsClean) : (single name attributes).IsCompact :=
  ended_isCompact named clean (by decide)

theorem stop_isCompact (named : isName name = true) : (stop name).IsCompact := by
  obtain ⟨less, greater⟩ := not_angle_of_isName named
  exact ⟨'/' :: name, by simp [stop], by simp [less], by simp [greater]⟩

theorem opening_opens (notVoid : name ∉ voidNames)
    (clean : ∀ entry ∈ attributes, entry.IsClean) : (opening name attributes).Opens := by
  refine start_opens notVoid ?_
  rcases List.eq_nil_or_concat attributes with rfl | ⟨others, last, rfl⟩
  · simp
  · obtain ⟨before, c, source, notSlash, _⟩ := Attribute.source_eq_concat (clean last (by simp))
    simp [source, List.getLast?_append, notSlash]

theorem single_isVoid (void : name ∈ voidNames) : (single name attributes).IsVoid := ⟨rfl, void⟩

/-- A tag that is written from a name and escaped attributes. -/
inductive IsPlain : Tag → Prop
  | opening {name : List Char} {attributes : List Attribute} : isName name = true →
      (∀ entry ∈ attributes, entry.IsEscaped) → IsPlain (.opening name attributes)
  | single {name : List Char} {attributes : List Attribute} : isName name = true →
      (∀ entry ∈ attributes, entry.IsEscaped) → IsPlain (.single name attributes)
  | stop {name : List Char} : isName name = true → IsPlain (.stop name)

namespace IsPlain

variable {tag : Tag}

theorem ended (named : isName name = true) (given : ∀ entry ∈ attributes, entry.IsEscaped) (listed : ending ∈ endings) :
    (Tag.ended name attributes ending).IsPlain := by
  obtain rfl | rfl : ending = [] ∨ ending = " /".toList := by simpa [endings] using listed
  · exact opening_eq name attributes ▸ .opening named given
  · exact .single named given

/-- A plain tag starts an element, or it is a closing tag. -/
theorem ended_or_stop (plain : tag.IsPlain) :
    (∃ name attributes ending, isName name = true ∧ (∀ entry ∈ attributes, entry.IsEscaped) ∧ ending ∈ endings ∧
      tag = Tag.ended name attributes ending) ∨
    ∃ name, isName name = true ∧ tag = .stop name := by
  cases plain with
  | opening named given => exact .inl ⟨_, _, _, named, given, by decide, opening_eq _ _⟩
  | single named given => exact .inl ⟨_, _, _, named, given, by decide, rfl⟩
  | stop named => exact .inr ⟨_, named, rfl⟩

theorem isWritten (plain : tag.IsPlain) : tag.IsWritten := by
  obtain ⟨name, attributes, ending, named, given, listed, rfl⟩ | ⟨name, named, rfl⟩ := plain.ended_or_stop
  · exact ended_isWritten named (fun entry member => (given entry member).isClean) listed
  · exact stop_isWritten named

theorem isCompact (plain : tag.IsPlain) : tag.IsCompact := by
  obtain ⟨name, attributes, ending, named, given, listed, rfl⟩ | ⟨name, named, rfl⟩ := plain.ended_or_stop
  · exact ended_isCompact named (fun entry member => (given entry member).isClean) listed
  · exact stop_isCompact named

theorem newline_not_mem (plain : tag.IsPlain) : '\n' ∉ tag.source := by
  obtain ⟨name, attributes, ending, named, given, listed, rfl⟩ | ⟨name, named, rfl⟩ := plain.ended_or_stop
  · have word := not_mem_of_isName named (c := '\n') (by decide)
    have values := Attribute.newline_not_mem_written given
    simp [Tag.ended, start, word, values, not_mem_ending listed (by decide : '\n' ∉ " /".toList)]
  · have word := not_mem_of_isName named (c := '\n') (by decide)
    simp [Tag.stop, word]

theorem referencesOnly (plain : tag.IsPlain) : ReferencesOnly tag.source := by
  obtain ⟨name, attributes, ending, named, given, listed, rfl⟩ | ⟨name, named, rfl⟩ := plain.ended_or_stop
  · have word := not_mem_of_isName named (c := '&') (by decide)
    have before : ReferencesOnly ('<' :: name) := .of_not_mem (by simp [word])
    have values := (Attribute.referencesOnly_written given).append
      (.of_not_mem (not_mem_ending listed (by decide : '&' ∉ " /".toList)))
    exact (before.append values).append (.of_not_mem (by decide))
  · have word := not_mem_of_isName named (c := '&') (by decide)
    exact .of_not_mem (by simp [Tag.stop, word])

end IsPlain

end Tag

/-- Every `<` in compact tags and between them starts one of these tags. -/
theorem read?_of_sourceOf {parts : List Piece} (written : ∀ part ∈ parts, part.IsWritten)
    (compact : ∀ tag, .tag tag ∈ parts → tag.IsCompact) {before after : List Char}
    (split : sourceOf parts = before ++ '<' :: after) :
    ∃ tag, .tag tag ∈ parts ∧ Tag.read? ('<' :: after) = some tag := by
  have later {part : Piece} {rest : List Piece}
      (found : ∃ tag, .tag tag ∈ rest ∧ Tag.read? ('<' :: after) = some tag) :
      ∃ tag, .tag tag ∈ part :: rest ∧ Tag.read? ('<' :: after) = some tag := by
    obtain ⟨tag, member, read⟩ := found
    exact ⟨tag, List.mem_cons_of_mem _ member, read⟩
  induction parts generalizing before with
  | nil => simp at split
  | cons part rest ih =>
    have written' := fun other member => written other (List.mem_cons_of_mem _ member)
    have compact' := fun tag member => compact tag (List.mem_cons_of_mem _ member)
    rw [sourceOf_cons] at split
    rcases List.append_eq_append_iff.mp split with ⟨more, _, split⟩ | ⟨more, source, split⟩
    · exact later (ih written' compact' split)
    · cases more with
      | nil =>
        have rest : sourceOf rest = [] ++ '<' :: after := split.symm
        exact later (ih written' compact' rest)
      | cons less ending =>
        obtain ⟨rfl, rfl⟩ := List.cons.inj split
        cases part with
        | char c =>
          have member : '<' ∈ (Piece.char c).source := source ▸ List.mem_append_right _ List.mem_cons_self
          exact absurd (List.mem_singleton.mp member).symm (written _ List.mem_cons_self)
        | tag tag =>
          obtain ⟨inner, shape, clean, _⟩ := compact tag List.mem_cons_self
          rw [Piece.source] at source
          cases before with
          | nil =>
            have read := Tag.read?_append (written _ List.mem_cons_self) (sourceOf rest)
            rw [source] at read
            exact ⟨tag, List.mem_cons_self, read⟩
          | cons first others =>
            rw [shape, List.cons_append] at source
            have member : '<' ∈ inner ++ ['>'] :=
              (List.cons.inj source).2 ▸ List.mem_append_right _ List.mem_cons_self
            simp [clean] at member

/-- Every `<` in a fragment of compact tags starts a tag. -/
theorem Fragment.exists_tag_of_less {model : ContentModel} {outer : List (List Char)} {html before after : List Char}
    (fragment : Fragment model outer html) (compact : ∀ outer tag, model.tag outer tag → tag.IsCompact)
    (split : html = before ++ '<' :: after) : ∃ tag, Tag.read? ('<' :: after) = some tag := by
  have compact (tag : Tag) (member : .tag tag ∈ pieces html) : tag.IsCompact := by
    obtain ⟨_, permitted⟩ := Nested.exists_permitted fragment member
    exact compact _ _ permitted
  have source : sourceOf (pieces html) = before ++ '<' :: after := by rw [source_pieces, split]
  obtain ⟨tag, _, read⟩ := read?_of_sourceOf (Nested.isWritten fragment) compact source
  exact ⟨tag, read⟩

end PostMarkup
