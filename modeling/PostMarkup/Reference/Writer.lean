/-! # Escaping text for HTML

In running text the ampersand and the angle brackets are written as references, in attribute
values the double quote too. Each character is escaped on its own, so escaping distributes over
concatenation.
-/

namespace PostMarkup

def escapeChar : Char → List Char
  | '&' => "&amp;".toList
  | '<' => "&lt;".toList
  | '>' => "&gt;".toList
  | c => [c]

/-- The written form of a text between tags. -/
def escapeText (text : List Char) : List Char := text.flatMap escapeChar

def escapeAttributeChar : Char → List Char
  | '"' => "&quot;".toList
  | c => escapeChar c

/-- The written form of a text inside a double-quoted attribute value. -/
def escapeAttribute (text : List Char) : List Char := text.flatMap escapeAttributeChar

@[simp] theorem escapeText_nil : escapeText [] = [] := rfl

@[simp] theorem escapeText_cons (c : Char) (rest : List Char) :
    escapeText (c :: rest) = escapeChar c ++ escapeText rest := rfl

@[simp] theorem escapeText_append (left right : List Char) :
    escapeText (left ++ right) = escapeText left ++ escapeText right := by
  simp [escapeText]

@[simp] theorem escapeAttribute_nil : escapeAttribute [] = [] := rfl

@[simp] theorem escapeAttribute_cons (c : Char) (rest : List Char) :
    escapeAttribute (c :: rest) = escapeAttributeChar c ++ escapeAttribute rest := rfl

@[simp] theorem escapeAttribute_append (left right : List Char) :
    escapeAttribute (left ++ right) = escapeAttribute left ++ escapeAttribute right := by
  simp [escapeAttribute]

/-- A character other than the three escaped ones is written as itself. -/
theorem escapeChar_of_ne {c : Char} (ampersand : c ≠ '&') (less : c ≠ '<') (greater : c ≠ '>') :
    escapeChar c = [c] := by
  unfold escapeChar
  split <;> simp_all

/-- No written form holds a raw angle bracket. -/
theorem not_mem_escapeChar (c : Char) : '<' ∉ escapeChar c ∧ '>' ∉ escapeChar c := by
  unfold escapeChar
  split <;> simp_all [eq_comm]

theorem not_mem_escapeText (text : List Char) :
    '<' ∉ escapeText text ∧ '>' ∉ escapeText text := by
  induction text with
  | nil => simp
  | cons c rest ih => simp [not_mem_escapeChar c, ih]

/-- Escaping never empties a text. -/
@[simp] theorem escapeText_eq_nil_iff (text : List Char) : escapeText text = [] ↔ text = [] := by
  cases text with
  | nil => simp
  | cons c rest =>
    have written : escapeChar c ≠ [] := by unfold escapeChar; split <;> simp
    simp [written]

end PostMarkup
