import PostMarkup.Markdown.BlockQuote

/-! # The depth of quotes

The quotes of a document are marked in rounds, one level at a time over all lines. All rounds
together leave each line in as many quotes as it has quote markers: between two lines the quotes that
only the first is in are closed, then those that only the second is in are opened, and nothing else
comes between them.
-/

namespace PostMarkup.Markdown

/-- The number of quote markers at the start of a line; a marker may include one space. -/
def quoteDepth : List Char → Nat
  | '>' :: ' ' :: rest => quoteDepth rest + 1
  | '>' :: rest => quoteDepth rest + 1
  | _ => 0

/-- A line without its quote markers. -/
def withoutQuotes : List Char → List Char
  | '>' :: ' ' :: rest => withoutQuotes rest
  | '>' :: rest => withoutQuotes rest
  | text => text

namespace Line

/-- The number of quote markers of a raw line; a finished block has none. -/
def depth : Line → Nat
  | raw text => quoteDepth text
  | done _ => 0

def unquoted : Line → Line
  | raw text => raw (withoutQuotes text)
  | done block => done block

def isQuoteMark : Line → Bool
  | done .quoteOpen | done .quoteClose => true
  | _ => false

/-- Whether a line is a raw line, which holds no line feed, or a finished block of code. -/
def IsFolded : Line → Prop
  | raw text => '\n' ∉ text
  | done (.code _ _) => True
  | done _ => False

instance : DecidablePred IsFolded
  | raw text => inferInstanceAs (Decidable ('\n' ∉ text))
  | done (.code _ _) => .isTrue trivial
  | done .quoteOpen | done .quoteClose | done (.heading _ _) | done .rule | done (.outline _)
  | done (.line _ _) => .isFalse id

end Line

/-- What stands between two lines in so many quotes each. -/
def quoteMarks (before after : Nat) : List Line :=
  List.replicate (before - after) (.done .quoteClose) ++ List.replicate (after - before) (.done .quoteOpen)

/-- Lines without their quote markers, each in as many quotes as it had markers, after a line in
`depth` quotes. -/
def inQuotes (depth : Nat) : List Line → List Line
  | [] => quoteMarks depth 0
  | line :: rest => quoteMarks depth line.depth ++ line.unquoted :: inQuotes line.depth rest

/-- The number of quotes open after some lines, unless one is closed that is not open. -/
def quotesAfter? : Nat → List Line → Option Nat
  | depth, [] => some depth
  | depth, .done .quoteOpen :: rest => quotesAfter? (depth + 1) rest
  | 0, .done .quoteClose :: _ => none
  | depth + 1, .done .quoteClose :: rest => quotesAfter? depth rest
  | depth, _ :: rest => quotesAfter? depth rest

variable {line : Line} {text rest : List Char} {depth : Nat}

/-- A marker adds one to the depth of the text after it. -/
theorem quoteDepth_of_dropQuoteMarker? (quoted : dropQuoteMarker? text = some rest) :
    quoteDepth text = quoteDepth rest + 1 ∧ withoutQuotes text = withoutQuotes rest := by
  unfold dropQuoteMarker? at quoted
  split at quoted
  · cases quoted
    exact ⟨rfl, rfl⟩
  · rename_i spaced
    cases quoted
    rw [quoteDepth, withoutQuotes]
    · exact ⟨rfl, rfl⟩
    · exact spaced
    · exact spaced
  · cases quoted

theorem quoteDepth_of_dropQuoteMarker?_eq_none (plain : dropQuoteMarker? text = none) :
    quoteDepth text = 0 ∧ withoutQuotes text = text := by
  unfold dropQuoteMarker? at plain
  split at plain
  · cases plain
  · cases plain
  · rename_i spaced other
    rw [quoteDepth, withoutQuotes]
    · exact ⟨rfl, rfl⟩
    all_goals assumption

theorem Line.depth_of_quoted? (quoted : line.quoted? = some text) :
    line.depth = (Line.raw text).depth + 1 ∧ line.unquoted = (Line.raw text).unquoted := by
  cases line with
  | raw written =>
    obtain ⟨deeper, same⟩ := quoteDepth_of_dropQuoteMarker? quoted
    exact ⟨deeper, congrArg Line.raw same⟩
  | done block => cases quoted

theorem Line.depth_of_quoted?_eq_none (plain : line.quoted? = none) : line.depth = 0 ∧ line.unquoted = line := by
  cases line with
  | raw written =>
    obtain ⟨shallow, same⟩ := quoteDepth_of_dropQuoteMarker?_eq_none plain
    exact ⟨shallow, congrArg Line.raw same⟩
  | done block => exact ⟨rfl, rfl⟩

@[simp] theorem quoteMarks_self (depth : Nat) : quoteMarks depth depth = [] := by
  simp [quoteMarks]

theorem quoteMarks_succ_succ (before after : Nat) : quoteMarks (before + 1) (after + 1) = quoteMarks before after := by
  simp [quoteMarks]

theorem quoteMarks_zero_succ (after : Nat) : quoteMarks 0 (after + 1) = .done .quoteOpen :: quoteMarks 0 after := by
  simp [quoteMarks, List.replicate_succ]

theorem quoteMarks_succ_zero (before : Nat) :
    quoteMarks (before + 1) 0 = quoteMarks before 0 ++ [.done .quoteClose] := by
  simp [quoteMarks, List.replicate_succ']

/-- A finished block is in no quote. -/
theorem inQuotes_done (depth : Nat) (block : Block) (lines : List Line) :
    inQuotes depth (.done block :: lines) = quoteMarks depth 0 ++ .done block :: inQuotes 0 lines := rfl

/-- A round takes one marker from each quoted line and adds the quote that it stands for, which makes no
difference to the quotes that the lines are in at last. -/
theorem inQuotes_markQuotes (lines : List Line) : inQuotes 0 (markQuotes false lines) = inQuotes 0 lines ∧
    ∀ depth, inQuotes depth (markQuotes true lines) = inQuotes (depth + 1) lines := by
  induction lines with
  | nil =>
    refine ⟨rfl, fun depth => ?_⟩
    rw [markQuotes, if_pos rfl, inQuotes_done, inQuotes, inQuotes, quoteMarks_succ_zero, quoteMarks_self]
  | cons line others ih =>
    obtain ⟨outside, inside⟩ := ih
    cases quoted : line.quoted? with
    | some text =>
      obtain ⟨deeper, same⟩ := Line.depth_of_quoted? quoted
      have after (depth : Nat) : inQuotes depth (.raw text :: markQuotes true others) =
          quoteMarks (depth + 1) line.depth ++ line.unquoted :: inQuotes line.depth others := by
        rw [inQuotes, inside, deeper, same, quoteMarks_succ_succ]
      constructor
      · rw [markQuotes, quoted, inQuotes, deeper, quoteMarks_zero_succ]
        simp only [Bool.false_eq_true, if_false]
        rw [inQuotes_done, after, deeper, quoteMarks_succ_succ, quoteMarks_self]
        rfl
      · intro depth
        rw [markQuotes, quoted]
        exact after depth
    | none =>
      obtain ⟨shallow, same⟩ := Line.depth_of_quoted?_eq_none quoted
      constructor
      · rw [markQuotes, quoted, inQuotes, shallow]
        simp only [Bool.false_eq_true, if_false]
        rw [inQuotes, shallow, outside]
      · intro depth
        rw [markQuotes, quoted, inQuotes, shallow, quoteMarks_succ_zero]
        simp only [if_true]
        rw [inQuotes_done, inQuotes, shallow, quoteMarks_self, outside, List.append_assoc]
        rfl

/-- Lines none of which is quoted are in no quote. -/
theorem inQuotes_of_plain {lines : List Line} (plain : ∀ line ∈ lines, line.quoted? = none) :
    inQuotes 0 lines = lines := by
  induction lines with
  | nil => rfl
  | cons line others ih =>
    obtain ⟨first, later⟩ := List.forall_mem_cons.mp plain
    obtain ⟨shallow, same⟩ := Line.depth_of_quoted?_eq_none first
    rw [inQuotes, shallow, same, quoteMarks_self, ih later]
    rfl

/-- All rounds together put each line into as many quotes as it has markers. -/
theorem markAllQuotes_eq_inQuotes (lines : List Line) : markAllQuotes lines = inQuotes 0 lines := by
  fun_induction markAllQuotes lines with
  | case1 lines quoted ih => rw [ih, (inQuotes_markQuotes lines).1]
  | case2 lines unquoted =>
    have plain : ∀ line ∈ lines, line.quoted? = none := by simpa using unquoted
    exact (inQuotes_of_plain plain).symm

theorem quotesAfter?_append (depth : Nat) (left right : List Line) :
    quotesAfter? depth (left ++ right) = (quotesAfter? depth left).bind fun middle => quotesAfter? middle right := by
  fun_induction quotesAfter? depth left with
  | case1 => rfl
  | case2 depth rest ih => exact ih
  | case3 => rfl
  | case4 depth rest ih => exact ih
  | case5 depth line rest opens closes closes' ih =>
    rw [List.cons_append, quotesAfter?, ih]
    all_goals assumption

/-- The marks between two lines lead from the quotes of the one to those of the other. -/
theorem quotesAfter?_quoteMarks (before after : Nat) : quotesAfter? before (quoteMarks before after) = some after := by
  have closes (fewer count : Nat) :
      quotesAfter? (fewer + count) (List.replicate count (.done .quoteClose)) = some fewer := by
    induction count with
    | zero => rfl
    | succ count ih => exact ih
  have opens (fewer count : Nat) :
      quotesAfter? fewer (List.replicate count (.done .quoteOpen)) = some (fewer + count) := by
    induction count generalizing fewer with
    | zero => rfl
    | succ count ih =>
      rw [List.replicate_succ, quotesAfter?, ih]
      congr 1
      omega
  have down := closes (min before after) (before - after)
  have up := opens (min before after) (after - before)
  have start : min before after + (before - after) = before := by omega
  have finish : min before after + (after - before) = after := by omega
  rw [start] at down
  rw [finish] at up
  rw [quoteMarks, quotesAfter?_append, down]
  exact up

/-- A line that is no mark leaves the open quotes as they are. -/
theorem quotesAfter?_unquoted (folded : line.IsFolded) (depth : Nat) (others : List Line) :
    quotesAfter? depth (line.unquoted :: others) = quotesAfter? depth others := by
  cases line with
  | raw text => rfl
  | done block =>
    cases block with
    | code language body => cases depth <;> rfl
    | _ => exact folded.elim

theorem Line.IsFolded.isQuoteMark (folded : line.IsFolded) : line.unquoted.isQuoteMark = false := by
  cases line with
  | raw text => rfl
  | done block =>
    cases block with
    | code language body => rfl
    | _ => exact folded.elim

theorem filter_quoteMarks (before after : Nat) :
    (quoteMarks before after).filter (fun line => !line.isQuoteMark) = [] := by
  simp [quoteMarks, Line.isQuoteMark]

/-- Without the marks, lines in their quotes are the lines without their markers. -/
theorem filter_inQuotes {lines : List Line} (folded : ∀ line ∈ lines, line.IsFolded) (depth : Nat) :
    (inQuotes depth lines).filter (fun line => !line.isQuoteMark) = lines.map Line.unquoted := by
  induction lines generalizing depth with
  | nil => exact filter_quoteMarks depth 0
  | cons line others ih =>
    obtain ⟨first, later⟩ := List.forall_mem_cons.mp folded
    rw [inQuotes, List.filter_append, filter_quoteMarks, List.filter_cons, first.isQuoteMark, ih later]
    rfl

/-- Lines in their quotes close all of these. -/
theorem quotesAfter?_inQuotes {lines : List Line} (folded : ∀ line ∈ lines, line.IsFolded) (depth : Nat) :
    quotesAfter? depth (inQuotes depth lines) = some 0 := by
  induction lines generalizing depth with
  | nil => exact quotesAfter?_quoteMarks depth 0
  | cons line others ih =>
    obtain ⟨first, later⟩ := List.forall_mem_cons.mp folded
    rw [inQuotes, quotesAfter?_append, quotesAfter?_quoteMarks]
    exact (quotesAfter?_unquoted first line.depth _).trans (ih later line.depth)

/-- Before a line, as many quotes are open as it has markers. -/
theorem exists_inQuotes {before : List Line} (folded : ∀ line ∈ before, line.IsFolded) (depth : Nat) (line : Line)
    (after : List Line) :
    ∃ front, inQuotes depth (before ++ line :: after) = front ++ line.unquoted :: inQuotes line.depth after ∧
      front.filter (fun line => !line.isQuoteMark) = before.map Line.unquoted ∧
      quotesAfter? depth front = some line.depth := by
  induction before generalizing depth with
  | nil => exact ⟨quoteMarks depth line.depth, rfl, filter_quoteMarks depth line.depth, quotesAfter?_quoteMarks _ _⟩
  | cons first others ih =>
    obtain ⟨own, later⟩ := List.forall_mem_cons.mp folded
    obtain ⟨front, cut, kept, opened⟩ := ih later first.depth
    refine ⟨quoteMarks depth first.depth ++ first.unquoted :: front, ?_, ?_, ?_⟩
    · rw [List.cons_append, inQuotes, cut, List.append_assoc]
      rfl
    · rw [List.filter_append, filter_quoteMarks, List.filter_cons, own.isQuoteMark, kept]
      rfl
    · rw [quotesAfter?_append, quotesAfter?_quoteMarks]
      exact (quotesAfter?_unquoted own first.depth front).trans opened

/-- Marking the quotes of a document puts each line, without its markers, into as many quotes as it had
markers. Nothing else is added: between two lines, and at both ends, quotes are closed down to what both
are in and then opened. The marks are balanced. -/
theorem markAllQuotes_nested (lines : List Line) (folded : ∀ line ∈ lines, line.IsFolded) :
    markAllQuotes lines = inQuotes 0 lines ∧
      (markAllQuotes lines).filter (fun line => !line.isQuoteMark) = lines.map Line.unquoted ∧
      quotesAfter? 0 (markAllQuotes lines) = some 0 ∧
      ∀ before line after, lines = before ++ line :: after →
        ∃ front back, markAllQuotes lines = front ++ line.unquoted :: back ∧
          front.filter (fun line => !line.isQuoteMark) = before.map Line.unquoted ∧
          quotesAfter? 0 front = some line.depth := by
  rw [markAllQuotes_eq_inQuotes]
  refine ⟨rfl, filter_inQuotes folded 0, quotesAfter?_inQuotes folded 0, ?_⟩
  rintro before line after rfl
  have folded' : ∀ line ∈ before, line.IsFolded := fun line member => folded line (List.mem_append_left _ member)
  obtain ⟨front, cut, kept, opened⟩ := exists_inQuotes folded' 0 line after
  exact ⟨front, _, cut, kept, opened⟩

/-- Two levels of quotes around a block of code, and a line that stands in none. -/
theorem markAllQuotes_nested_code :
    let code : Line := .done (.code none [">".toList])
    let lines : List Line := [.raw "> > a".toList, code, .raw ">>b".toList, .raw "> c".toList]
    (∀ line ∈ lines, line.IsFolded) ∧
      markAllQuotes lines = [.done .quoteOpen, .done .quoteOpen, .raw ['a'], .done .quoteClose, .done .quoteClose,
        code, .done .quoteOpen, .done .quoteOpen, .raw ['b'], .done .quoteClose, .raw ['c'], .done .quoteClose] := by
  intro code lines
  have folded : ∀ line ∈ lines, line.IsFolded := by decide
  exact ⟨folded, (markAllQuotes_nested lines folded).1⟩

end PostMarkup.Markdown
