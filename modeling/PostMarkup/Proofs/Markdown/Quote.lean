import PostMarkup.Markdown.Document
import PostMarkup.Proofs.Markdown.CodeBlock

/-! # Quotes are closed

Each round of quote marks puts the opening and the closing of a quote around runs of lines, so the
quotes of a document open and close like brackets. Blocks that are read from raw lines later on are
no quote marks and take raw lines only, which leaves the brackets as they are.
-/

namespace PostMarkup.Markdown

/-- Whether the quotes among blocks are closed, where `depth` quotes are open before them. -/
def QuotesClosed : Nat → List Block → Prop
  | depth, [] => depth = 0
  | depth, .quoteOpen :: rest => QuotesClosed (depth + 1) rest
  | 0, .quoteClose :: _ => False
  | depth + 1, .quoteClose :: rest => QuotesClosed depth rest
  | depth, _ :: rest => QuotesClosed depth rest

def finished (lines : List Line) : List Block :=
  lines.filterMap fun
    | .raw _ => none
    | .done block => some block

@[simp] theorem finished_nil : finished [] = [] := rfl

@[simp] theorem finished_raw (text : List Char) (rest : List Line) :
    finished (.raw text :: rest) = finished rest := rfl

@[simp] theorem finished_done (block : Block) (rest : List Line) :
    finished (.done block :: rest) = block :: finished rest := rfl

/-- A round of marks closes each quote that it opens. -/
theorem quotesClosed_markQuotes {depth : Nat} {lines : List Line}
    (closed : QuotesClosed depth (finished lines)) :
    QuotesClosed depth (finished (markQuotes false lines)) ∧
      QuotesClosed (depth + 1) (finished (markQuotes true lines)) := by
  induction lines generalizing depth with
  | nil => simpa [markQuotes, QuotesClosed] using closed
  | cons line rest ih =>
    cases line with
    | raw written =>
      obtain ⟨outside, inside⟩ := ih (by simpa using closed)
      cases quoted : Line.quoted? (.raw written) with
      | some text => simpa [markQuotes, quoted, QuotesClosed] using inside
      | none => simpa [markQuotes, quoted, QuotesClosed] using outside
    | done block =>
      have quoted : Line.quoted? (.done block) = none := rfl
      simp only [finished_done] at closed
      cases block with
      | quoteOpen => simpa [markQuotes, quoted, QuotesClosed] using (ih closed).1
      | quoteClose =>
        cases depth with
        | zero => exact closed.elim
        | succ depth => simpa [markQuotes, quoted, QuotesClosed] using (ih closed).1
      | _ => simpa [markQuotes, quoted, QuotesClosed] using (ih closed).1

theorem quotesClosed_markAllQuotes {lines : List Line} (closed : QuotesClosed 0 (finished lines)) :
    QuotesClosed 0 (finished (markAllQuotes lines)) := by
  fun_induction markAllQuotes lines with
  | case1 lines quoted ih => exact ih (quotesClosed_markQuotes closed).1
  | case2 lines done => exact closed

theorem quotesClosed_foldCodeFrom (afterBlank : Bool) (lines : List (List Char)) :
    QuotesClosed 0 (finished (foldCodeFrom afterBlank lines)) := by
  fun_induction foldCodeFrom afterBlank lines with
  | case1 => rfl
  | case2 afterBlank line rest block after found ih =>
    have code : ∃ language body, block = .code language body := by
      rcases cases_of_codeBlock? found with ⟨fence, texts, -, -, same⟩ | ⟨texts, -, same⟩
      all_goals exact ⟨_, _, same⟩
    obtain ⟨language, body, rfl⟩ := code
    simpa [QuotesClosed] using ih
  | case3 afterBlank line rest _ ih => simpa using ih

/-- Items are read from raw lines. -/
theorem finished_readItems (lines : List Line) :
    finished (readItems lines).2 = finished lines := by
  induction lines with
  | nil => rfl
  | cons line rest ih =>
    unfold readItems
    split
    · rename_i item read
      cases line with
      | raw written => simpa using ih
      | done block => simp [Line.raw?] at read
    · rfl

/-- A block is read from raw lines, and it is no quote mark. -/
theorem quotesClosed_readBlock (text : List Char) (rest : List Line) (depth : Nat)
    (blocks : List Block) : finished (readBlock text rest).2 = finished rest ∧
      (QuotesClosed depth blocks → QuotesClosed depth ((readBlock text rest).1 :: blocks)) := by
  unfold readBlock
  split
  · rename_i found underlined
    unfold underlined? at underlined
    split at underlined
    · split at underlined
      · obtain ⟨level, _, rfl⟩ := Option.map_eq_some_iff.mp underlined
        exact ⟨by simp, id⟩
      · simp at underlined
    · simp at underlined
  · split
    · exact ⟨rfl, id⟩
    · split
      · exact ⟨rfl, id⟩
      · split
        · rename_i found listed
          simp only [outline?] at listed
          split at listed
          · simp at listed
          · obtain ⟨outline, _, rfl⟩ := Option.map_eq_some_iff.mp listed
            exact ⟨by simpa using finished_readItems (.raw text :: rest), id⟩
        · exact ⟨rfl, id⟩

theorem quotesClosed_readBlocks {depth : Nat} {lines : List Line}
    (closed : QuotesClosed depth (finished lines)) : QuotesClosed depth (readBlocks lines) := by
  fun_induction readBlocks lines generalizing depth with
  | case1 => exact closed
  | case2 block rest ih =>
    simp only [finished_done] at closed
    cases block with
    | quoteOpen => exact ih closed
    | quoteClose =>
      cases depth with
      | zero => exact closed.elim
      | succ depth => exact ih closed
    | _ => exact ih closed
  | case3 text rest ih =>
    obtain ⟨same, other⟩ := quotesClosed_readBlock text rest depth
      (readBlocks (readBlock text rest).2)
    exact other (ih (by rwa [same]))

/-- The quotes of a document are closed. -/
theorem quotesClosed_readDocument (text : List Char) : QuotesClosed 0 (readDocument text) :=
  quotesClosed_readBlocks (quotesClosed_markAllQuotes (quotesClosed_foldCodeFrom _ _))

end PostMarkup.Markdown
