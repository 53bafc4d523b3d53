import PostMarkup.Markdown.Line

/-! # Block quotes

A raw line that starts with `>` is quoted. Each maximal run of quoted lines loses one marker per
line and is put between the opening and the closing of a quote, and this is repeated until no line
is quoted. Every round makes the raw lines shorter, so there is a last one.
-/

namespace PostMarkup.Markdown

/-- The text after the quote marker of a line, which may include one space. -/
def dropQuoteMarker? : List Char → Option (List Char)
  | '>' :: ' ' :: rest => some rest
  | '>' :: rest => some rest
  | _ => none

namespace Line

/-- The text of a quoted line without its marker. -/
def quoted? (line : Line) : Option (List Char) := line.raw?.bind dropQuoteMarker?

def rawLength : Line → Nat
  | raw text => text.length
  | done _ => 0

end Line

theorem length_of_dropQuoteMarker? {line rest : List Char}
    (quoted : dropQuoteMarker? line = some rest) : rest.length < line.length := by
  unfold dropQuoteMarker? at quoted
  split at quoted
  · simp only [Option.some.injEq] at quoted
    subst quoted
    simp only [List.length_cons]
    omega
  · simp only [Option.some.injEq] at quoted
    subst quoted
    exact Nat.lt_add_one _
  · simp at quoted

/-- Lines with one level of quotes marked; `inside` says whether the line before is quoted. -/
def markQuotes (inside : Bool) : List Line → List Line
  | [] => if inside then [.done .quoteClose] else []
  | line :: rest =>
    match line.quoted? with
    | some text =>
      let quoted := .raw text :: markQuotes true rest
      if inside then quoted else .done .quoteOpen :: quoted
    | none =>
      let after := line :: markQuotes false rest
      if inside then .done .quoteClose :: after else after

def rawLengths (lines : List Line) : Nat :=
  lines.foldr (fun line total => line.rawLength + total) 0

@[simp] theorem rawLengths_nil : rawLengths [] = 0 := rfl

@[simp] theorem rawLengths_raw (text : List Char) (rest : List Line) :
    rawLengths (.raw text :: rest) = text.length + rawLengths rest := by
  simp [rawLengths, Line.rawLength]

@[simp] theorem rawLengths_done (block : Block) (rest : List Line) :
    rawLengths (.done block :: rest) = rawLengths rest := by
  simp [rawLengths, Line.rawLength]

theorem rawLengths_cons (line : Line) (rest : List Line) :
    rawLengths (line :: rest) = line.rawLength + rawLengths rest := by
  simp [rawLengths]

theorem rawLength_of_quoted? {line : Line} {text : List Char} (quoted : line.quoted? = some text) :
    text.length < line.rawLength := by
  cases line with
  | raw written => exact length_of_dropQuoteMarker? quoted
  | done block => simp [Line.quoted?, Line.raw?] at quoted

theorem rawLengths_markQuotes_le (inside : Bool) (lines : List Line) :
    rawLengths (markQuotes inside lines) ≤ rawLengths lines := by
  induction lines generalizing inside with
  | nil => cases inside <;> simp [markQuotes]
  | cons line rest ih =>
    unfold markQuotes
    split
    · rename_i text quoted
      have shorter := rawLength_of_quoted? quoted
      have others := ih true
      cases inside <;> simp [rawLengths_cons line] <;> omega
    · have others := ih false
      cases inside <;> simp [rawLengths_cons line] <;> omega

/-- A round shortens the raw lines if one of them is quoted. -/
theorem rawLengths_markQuotes_lt (inside : Bool) (lines : List Line)
    (some_quoted : lines.any (fun line => line.quoted?.isSome) = true) :
    rawLengths (markQuotes inside lines) < rawLengths lines := by
  induction lines generalizing inside with
  | nil => simp at some_quoted
  | cons line rest ih =>
    unfold markQuotes
    split
    · rename_i text quoted
      have shorter := rawLength_of_quoted? quoted
      have others := rawLengths_markQuotes_le true rest
      cases inside <;> simp [rawLengths_cons line] <;> omega
    · rename_i notQuoted
      have others := ih false (by simpa [notQuoted] using some_quoted)
      cases inside <;> simp [rawLengths_cons line] <;> omega

/-- Lines with all their levels of quotes marked. -/
def markAllQuotes (lines : List Line) : List Line :=
  if lines.any (fun line => line.quoted?.isSome) then markAllQuotes (markQuotes false lines)
  else lines
termination_by rawLengths lines
decreasing_by
  rename_i some_quoted
  exact rawLengths_markQuotes_lt false lines some_quoted

end PostMarkup.Markdown
