import PostMarkup.Element
import PostMarkup.Proofs.Markup.Fragment

/-! # Forms of tags

Opening tags are written from a name and their attributes, closing tags from a name. Such a tag
reads back when its name is a word and all quotes in its attributes are closed.
-/

namespace PostMarkup

open PostMarkup.Text

namespace Tag

/-- The opening tag of a name, with its attributes as they are written after the name. -/
def start (name attributes : List Char) : Tag :=
  ⟨name, false, attributes.getLast? = some '/', '<' :: name ++ attributes ++ ['>']⟩

def stop (name : List Char) : Tag := ⟨name, true, false, "</".toList ++ name ++ ['>']⟩

/-- Whether a text is the name of an element: a letter and then letters and digits, all small. -/
def isName (name : List Char) : Bool :=
  name.head?.any Char.isAlpha && name.all fun c => c.isAlphanum && c.toLower = c

/-- Whether no angle bracket stands outside quotes and the last quote is closed; `quote` is the
quote that is open. -/
def quotesClosed (quote : Option Char) : List Char → Bool
  | [] => quote.isNone
  | c :: rest =>
    match quote with
    | some mark => quotesClosed (if c = mark then none else some mark) rest
    | none =>
      c ≠ '<' && c ≠ '>' && quotesClosed (if c = '"' ∨ c = '\'' then some c else none) rest

theorem quotesClosed_append {quote : Option Char} {left right : List Char}
    (first : quotesClosed quote left = true) (second : quotesClosed none right = true) :
    quotesClosed quote (left ++ right) = true := by
  induction left generalizing quote with
  | nil =>
    obtain rfl := Option.isNone_iff_eq_none.mp first
    exact second
  | cons c rest ih =>
    cases quote with
    | some mark => exact ih first
    | none =>
      simp only [quotesClosed, List.cons_append, Bool.and_eq_true] at first ⊢
      exact ⟨first.1, ih first.2⟩

theorem quotesClosed_value {mark : Char} {value rest : List Char} (clean : mark ∉ value) :
    quotesClosed (some mark) (value ++ mark :: rest) = quotesClosed none rest := by
  induction value with
  | nil => simp [quotesClosed]
  | cons c others ih =>
    simp only [List.mem_cons, not_or] at clean
    simp [quotesClosed, Ne.symm clean.1, ih clean.2]

theorem body?_of_quotesClosed {quote : Option Char} {text : List Char}
    (closed : quotesClosed quote text = true) :
    body? quote (text ++ ['>']) = some (text ++ ['>']) := by
  induction text generalizing quote with
  | nil =>
    obtain rfl := Option.isNone_iff_eq_none.mp closed
    rfl
  | cons c rest ih =>
    cases quote with
    | some mark => simp [body?, ih closed]
    | none =>
      simp only [quotesClosed, Bool.and_eq_true, decide_eq_true_eq] at closed
      simp [body?, closed.1.1, closed.1.2, ih closed.2]

variable {name attributes : List Char}

/-- A word in any case, attributes whose quotes are closed and `>` make up the rest of a tag. -/
theorem readName?_of_word (opening : List Char) (closing : Bool) (letter : name.head?.any Char.isAlpha = true)
    (word : ∀ c ∈ name, c.isAlphanum = true) (ends : attributes.head?.all endsName = true)
    (closed : quotesClosed none attributes = true) :
    readName? opening closing (name ++ (attributes ++ ['>'])) =
      some ⟨name.map Char.toLower, closing, attributes.getLast? = some '/',
        opening ++ name ++ (attributes ++ ['>'])⟩ := by
  have ends' : (attributes ++ ['>']).head?.any endsName = true := by
    cases attributes with
    | nil => decide
    | cons c rest => simpa using ends
  obtain ⟨taken, dropped⟩ := takeWhile_name word ends'
  refine readName?_eq_some_iff.mpr ⟨name, attributes ++ ['>'], taken, letter, ?_, ?_, by simp⟩
  · rwa [dropped]
  · rw [dropped]
    exact body?_of_quotesClosed closed

theorem readName?_start (opening : List Char) (closing : Bool) (named : isName name = true)
    (ends : attributes.head?.all endsName = true) (closed : quotesClosed none attributes = true) :
    readName? opening closing (name ++ (attributes ++ ['>'])) =
      some ⟨name, closing, attributes.getLast? = some '/',
        opening ++ name ++ (attributes ++ ['>'])⟩ := by
  simp only [isName, Bool.and_eq_true, List.all_eq_true, decide_eq_true_eq] at named
  have small : name.map Char.toLower = name :=
    (List.map_congr_left fun c member => (named.2 c member).2).trans (List.map_id name)
  have read := readName?_of_word opening closing named.1 (fun c member => (named.2 c member).1) ends closed
  rwa [small] at read

/-- The first character of a name is no slash. -/
theorem isName_cons (named : isName name = true) : ∃ c rest, name = c :: rest ∧ c ≠ '/' := by
  cases name with
  | nil => simp [isName] at named
  | cons c rest =>
    refine ⟨c, rest, rfl, ?_⟩
    rintro rfl
    simp [isName] at named

theorem start_isWritten (named : isName name = true) (ends : attributes.head?.all endsName = true)
    (closed : quotesClosed none attributes = true) : (start name attributes).IsWritten := by
  obtain ⟨c, rest, rfl, notSlash⟩ := isName_cons named
  have read := readName?_start ['<'] false named ends closed
  simp only [IsWritten, start, List.cons_append, List.append_assoc] at read ⊢
  rw [read?_less notSlash, read]
  rfl

theorem stop_isWritten (named : isName name = true) : (stop name).IsWritten := by
  have read := readName?_start ['<', '/'] true named (rfl : ([] : List Char).head?.all endsName = true) rfl
  simpa [IsWritten, stop, read?] using read

theorem start_opens (notVoid : name ∉ voidNames) (last : attributes.getLast? ≠ some '/') :
    (start name attributes).Opens :=
  ⟨rfl, by simpa [start] using last, notVoid⟩

end Tag

end PostMarkup
