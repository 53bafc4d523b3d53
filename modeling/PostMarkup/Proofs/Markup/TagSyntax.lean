import PostMarkup.Proofs.Markup.Attribute

/-! # Tags as they may be written

The name of a tag is a letter and then letters and digits, in any case. Attributes follow, each after
blanks; an attribute is a name, or a name, an equals sign and a value between double quotes, where
blanks may stand around the equals sign. A value may hold anything but a double quote: angle brackets,
slashes and apostrophes in it mean nothing. Before the final `>` there may be blanks, and after them a
slash. Each such tag reads back as a whole.
-/

namespace PostMarkup

open PostMarkup.Text

/-- The equals sign and the value of an attribute. -/
structure QuotedValue where
  /-- The blanks before and after the equals sign. -/
  before : List Char
  after : List Char
  /-- The characters between the quotes. -/
  text : List Char
deriving DecidableEq, Repr

namespace QuotedValue

def source (value : QuotedValue) : List Char :=
  value.before ++ '=' :: value.after ++ '"' :: value.text ++ ['"']

def isProper (value : QuotedValue) : Bool :=
  value.before.all isBlank && value.after.all isBlank && !value.text.contains '"'

end QuotedValue

structure AttributeSyntax where
  space : List Char
  name : List Char
  value : Option QuotedValue
deriving DecidableEq, Repr

namespace AttributeSyntax

def source (entry : AttributeSyntax) : List Char :=
  entry.space ++ entry.name ++ (entry.value.map QuotedValue.source).getD []

/-- Whether a character may stand in the name of an attribute. -/
def isNameChar (c : Char) : Bool := !isBlank c && ['"', '\'', '<', '>', '/', '='].all (c ≠ ·)

/-- Whether blanks stand before the attribute, its name holds no mark, and its value is proper. -/
def isProper (entry : AttributeSyntax) : Bool :=
  !entry.space.isEmpty && entry.space.all isBlank && !entry.name.isEmpty && entry.name.all isNameChar &&
    entry.value.all QuotedValue.isProper

end AttributeSyntax

/-- Whether a text may be the name of a tag: a letter and then letters and digits, in any case. -/
def isTagName (name : List Char) : Bool := name.head?.any Char.isAlpha && name.all Char.isAlphanum

/-- The parts of an opening tag or of the tag of a void element. -/
structure StartSyntax where
  name : List Char
  attributes : List AttributeSyntax
  /-- The blanks after the attributes. -/
  space : List Char
  /-- Whether a slash stands before the final `>`. -/
  slash : Bool
deriving DecidableEq, Repr

namespace StartSyntax

/-- What stands between the name and the final `>`. -/
def inside (parts : StartSyntax) : List Char :=
  parts.attributes.flatMap AttributeSyntax.source ++ parts.space ++ if parts.slash then ['/'] else []

def tag (parts : StartSyntax) : Tag where
  name := parts.name.map Char.toLower
  closing := false
  selfClosing := parts.slash
  source := '<' :: parts.name ++ parts.inside ++ ['>']

def isProper (parts : StartSyntax) : Bool :=
  isTagName parts.name && parts.attributes.all AttributeSyntax.isProper && parts.space.all isBlank

end StartSyntax

/-- The parts of a closing tag. -/
structure StopSyntax where
  name : List Char
  /-- The blanks after the name. -/
  space : List Char
deriving DecidableEq, Repr

namespace StopSyntax

def tag (parts : StopSyntax) : Tag where
  name := parts.name.map Char.toLower
  closing := true
  selfClosing := false
  source := "</".toList ++ parts.name ++ parts.space ++ ['>']

def isProper (parts : StopSyntax) : Bool := isTagName parts.name && parts.space.all isBlank

end StopSyntax

/-- Whether a piece is a tag as it may be written, or a character that starts none. -/
inductive Piece.IsProper : Piece → Prop
  | start {parts : StartSyntax} : parts.isProper = true → IsProper (.tag parts.tag)
  | stop {parts : StopSyntax} : parts.isProper = true → IsProper (.tag parts.tag)
  | char {c : Char} : c ≠ '<' → IsProper (.char c)

theorem ne_of_isBlank {c mark : Char} (blank : isBlank c = true) (other : isBlank mark = false) : c ≠ mark := by
  rintro rfl
  exact Bool.false_ne_true (other.symm.trans blank)

/-- A text in which all quotes are closed and that does not end in a slash. -/
structure IsInside (text : List Char) : Prop where
  closed : Tag.quotesClosed none text = true
  noSlash : text.getLast? ≠ some '/'

namespace IsInside

variable {left right : List Char}

theorem nil : IsInside [] := ⟨rfl, by simp⟩

theorem append (first : IsInside left) (second : IsInside right) : IsInside (left ++ right) := by
  refine ⟨Tag.quotesClosed_append first.closed second.closed, ?_⟩
  have last := second.noSlash
  rw [List.getLast?_append]
  cases found : right.getLast? with
  | none => exact first.noSlash
  | some c => rwa [found] at last

theorem of_plain (plain : ∀ c ∈ left, c ≠ '<' ∧ c ≠ '>' ∧ c ≠ '"' ∧ c ≠ '\'' ∧ c ≠ '/') : IsInside left := by
  constructor
  · apply Attribute.quotesClosed_of_plain
    intro c member
    obtain ⟨less, greater, double, single, _⟩ := plain c member
    exact ⟨less, greater, double, single⟩
  · intro last
    exact (plain '/' (List.mem_of_getLast? last)).2.2.2.2 rfl

theorem blanks (blank : left.all isBlank = true) : IsInside left := by
  apply of_plain
  intro c member
  have blank := List.all_eq_true.mp blank c member
  exact ⟨ne_of_isBlank blank (by decide), ne_of_isBlank blank (by decide), ne_of_isBlank blank (by decide),
    ne_of_isBlank blank (by decide), ne_of_isBlank blank (by decide)⟩

/-- A value ends in the quote that closes it, whatever it holds. -/
theorem ofValue {value : QuotedValue} (proper : value.isProper = true) : IsInside value.source := by
  simp only [QuotedValue.isProper, Bool.and_eq_true, Bool.not_eq_true', List.contains_eq_mem,
    decide_eq_false_iff_not] at proper
  obtain ⟨⟨before, after⟩, clean⟩ := proper
  have quoted : IsInside ('"' :: (value.text ++ ['"'])) := by
    constructor
    · change Tag.quotesClosed (some '"') (value.text ++ '"' :: []) = true
      rw [Tag.quotesClosed_value clean]
      rfl
    · rw [← List.cons_append, List.getLast?_concat]
      decide
  have sign : IsInside ['='] := of_plain (by decide)
  have whole := ((blanks before).append sign).append ((blanks after).append quoted)
  simpa [QuotedValue.source] using whole

theorem ofAttribute {entry : AttributeSyntax} (proper : entry.isProper = true) : IsInside entry.source := by
  simp only [AttributeSyntax.isProper, Bool.and_eq_true] at proper
  obtain ⟨⟨⟨⟨_, space⟩, _⟩, named⟩, valued⟩ := proper
  have name : IsInside entry.name := by
    apply of_plain
    intro c member
    have allowed := List.all_eq_true.mp named c member
    simp [AttributeSyntax.isNameChar] at allowed
    simp [allowed]
  refine ((blanks space).append name).append ?_
  cases found : entry.value with
  | none => exact nil
  | some quoted =>
    rw [found] at valued
    exact ofValue valued

theorem ofAttributes {entries : List AttributeSyntax} (proper : entries.all AttributeSyntax.isProper = true) :
    IsInside (entries.flatMap AttributeSyntax.source) := by
  induction entries with
  | nil => exact nil
  | cons entry rest ih =>
    obtain ⟨first, others⟩ := Bool.and_eq_true_iff.mp proper
    exact (ofAttribute first).append (ih others)

end IsInside

/-- What follows the name of a tag ends the name. -/
theorem head?_blanks {space rest : List Char} (blank : space.all isBlank = true)
    (ends : rest.head?.all Tag.endsName = true) : (space ++ rest).head?.all Tag.endsName = true := by
  cases space with
  | nil => exact ends
  | cons c more =>
    have first := List.all_eq_true.mp blank c List.mem_cons_self
    simp [Tag.endsName, first]

namespace StartSyntax

variable {parts : StartSyntax}

theorem head?_inside (proper : parts.isProper = true) : parts.inside.head?.all Tag.endsName = true := by
  simp only [isProper, Bool.and_eq_true, List.all_eq_true] at proper
  obtain ⟨⟨_, given⟩, space⟩ := proper
  have slash : (if parts.slash then ['/'] else []).head?.all Tag.endsName = true := by
    cases parts.slash <;> decide
  rw [inside, List.append_assoc]
  cases found : parts.attributes with
  | nil =>
    rw [List.flatMap_nil, List.nil_append]
    exact head?_blanks (List.all_eq_true.mpr space) slash
  | cons entry others =>
    have first := given entry (found ▸ List.mem_cons_self)
    simp only [AttributeSyntax.isProper, Bool.and_eq_true, Bool.not_eq_true'] at first
    obtain ⟨⟨⟨⟨some, blank⟩, _⟩, _⟩, _⟩ := first
    cases spaced : entry.space with
    | nil => simp [spaced] at some
    | cons c more =>
      have blank := List.all_eq_true.mp blank c (spaced ▸ List.mem_cons_self)
      simp [AttributeSyntax.source, spaced, Tag.endsName, blank]

theorem closed_inside (proper : parts.isProper = true) : Tag.quotesClosed none parts.inside = true ∧
    decide (parts.inside.getLast? = some '/') = parts.slash := by
  simp only [isProper, Bool.and_eq_true] at proper
  obtain ⟨⟨_, given⟩, space⟩ := proper
  have before := (IsInside.ofAttributes given).append (IsInside.blanks space)
  rw [inside]
  cases parts.slash with
  | false =>
    rw [if_neg Bool.false_ne_true, List.append_nil]
    exact ⟨before.closed, decide_eq_false before.noSlash⟩
  | true => exact ⟨Tag.quotesClosed_append before.closed (by decide), by simp⟩

theorem isWritten (proper : parts.isProper = true) : parts.tag.IsWritten := by
  obtain ⟨closed, slash⟩ := closed_inside proper
  have ends := head?_inside proper
  simp only [isProper, isTagName, Bool.and_eq_true] at proper
  obtain ⟨⟨⟨letter, word⟩, _⟩, _⟩ := proper
  have read := Tag.readName?_of_word ['<'] false letter (List.all_eq_true.mp word) ends closed
  obtain ⟨c, rest, named⟩ : ∃ c rest, parts.name = c :: rest := by
    cases named : parts.name with
    | nil => simp [named] at letter
    | cons c rest => exact ⟨c, rest, rfl⟩
  have notSlash : c ≠ '/' := by
    rintro rfl
    simp [named] at letter
  rw [named] at read
  simp only [Tag.IsWritten, tag, named, List.cons_append, List.append_assoc] at read ⊢
  rw [Tag.read?_less notSlash, read, slash]
  rfl

end StartSyntax

namespace StopSyntax

variable {parts : StopSyntax}

theorem isWritten (proper : parts.isProper = true) : parts.tag.IsWritten := by
  simp only [isProper, isTagName, Bool.and_eq_true] at proper
  obtain ⟨⟨letter, word⟩, space⟩ := proper
  have inside := IsInside.blanks space
  have ends : parts.space.head?.all Tag.endsName = true := by
    simpa using head?_blanks space (rfl : ([] : List Char).head?.all Tag.endsName = true)
  have read := Tag.readName?_of_word ['<', '/'] true letter (List.all_eq_true.mp word) ends inside.closed
  simpa [Tag.IsWritten, tag, Tag.read?, inside.noSlash] using read

end StopSyntax

/-- Proper pieces are cut out of markup as themselves. -/
theorem Piece.IsProper.isWritten {part : Piece} (proper : part.IsProper) : part.IsWritten := by
  cases proper with
  | start proper => exact StartSyntax.isWritten proper
  | stop proper => exact StopSyntax.isWritten proper
  | char differs => exact differs

end PostMarkup
