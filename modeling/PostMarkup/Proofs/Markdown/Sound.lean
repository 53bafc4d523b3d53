import PostMarkup.Markdown.Document
import PostMarkup.Proofs.Markdown.CodeBlock
import PostMarkup.Proofs.Markdown.Outline
import PostMarkup.Proofs.Text.Lines

/-! # What the parts of a document hold

The parts that are read from a line hold no line feed, and the target of a link or an image is a
linkable address without blanks. These facts about the blocks of a document are all that its HTML
depends on.
-/

namespace PostMarkup.Markdown

open PostMarkup.Text

/-- A target that was read from one line. -/
structure Target.Sound (target : Target) : Prop where
  linkable : Url.isLinkable target.url = true
  solid : ∀ c ∈ target.url, isBlank c = false
  url_line : '\n' ∉ target.url
  label_line : '\n' ∉ target.label
  title_line : ∀ title ∈ target.title, '\n' ∉ title

/-- A part that was read from one line. -/
inductive Inline.Sound : Inline → Prop
  | text {characters : List Char} : '\n' ∉ characters → Inline.Sound (.text characters)
  | code {characters : List Char} : '\n' ∉ characters → Inline.Sound (.code characters)
  | link {target : Target} : target.Sound → Inline.Sound (.link target)
  | image {target : Target} : target.Sound → Inline.Sound (.image target)
  | styled {style : Style} {content : List Inline} :
      (∀ part ∈ content, Inline.Sound part) → Inline.Sound (.styled style content)

variable {text : List Char}

theorem mem_of_mem_plainLabel {c : Char} (member : c ∈ plainLabel text) : c ∈ text := by
  fun_induction plainLabel text with
  | case1 => exact member
  | case2 => exact member
  | case3 first next rest escaped ih =>
    rcases List.mem_cons.mp member with rfl | member
    · simp
    · exact List.mem_cons_of_mem _ (List.mem_cons_of_mem _ (ih member))
  | case4 first next rest notEscaped ih =>
    rcases List.mem_cons.mp member with rfl | member
    · simp
    · exact List.mem_cons_of_mem _ (ih member)

theorem mem_of_mem_untilBackticks? {run : Nat} {body : List Char}
    (found : untilBackticks? run text = some body) {c : Char} (member : c ∈ body) : c ∈ text := by
  fun_induction untilBackticks? run text generalizing body with
  | case1 => simp at found
  | case2 rest same =>
    simp only [Option.some.injEq] at found
    simp [← found] at member
  | case3 rest count differs =>
    rename_i ih
    obtain ⟨inner, read, rfl⟩ := Option.map_eq_some_iff.mp found
    rcases List.mem_append.mp member with member | member
    · simp [List.eq_of_mem_replicate member]
    · exact List.mem_cons_of_mem _ (List.mem_of_mem_drop (ih read member))
  | case4 first rest other ih =>
    obtain ⟨inner, read, rfl⟩ := Option.map_eq_some_iff.mp found
    rcases List.mem_cons.mp member with rfl | member
    · simp
    · exact List.mem_cons_of_mem _ (ih read member)

theorem mem_of_mem_codeContent {c : Char} (member : c ∈ codeContent text) : c ∈ text := by
  unfold codeContent at member
  split at member
  · exact List.mem_of_mem_tail (List.dropLast_subset _ member)
  · exact member

/-- The title and what follows it are parts of the text. -/
theorem mem_of_readTitle? {title : Option (List Char)} {after : List Char}
    (found : readTitle? text = some (title, after)) :
    (∀ words ∈ title, ∀ c ∈ words, c ∈ text) ∧ ∀ c ∈ after, c ∈ text := by
  unfold readTitle? at found
  split at found
  · obtain ⟨⟨words, rest⟩, cut, same⟩ := Option.map_eq_some_iff.mp found
    simp only [Prod.mk.injEq] at same
    obtain ⟨rfl, rfl⟩ := same
    rw [eq_of_cutAt? cut]
    constructor
    · intro words' member c inside
      obtain rfl := Option.mem_some.mp member
      simp [inside]
    · intro c inside
      simp [(List.dropWhile_sublist _).mem inside]
  · simp only [Option.some.injEq, Prod.mk.injEq] at found
    simp [← found.1, ← found.2]

/-- A target that is read is sound if the text is one line. -/
theorem sound_of_readTarget? {target : Target} {after : List Char}
    (found : readTarget? text = some (target, after)) (line : '\n' ∉ text) : target.Sound := by
  simp only [readTarget?, Option.bind_eq_bind, Option.bind_eq_some_iff] at found
  obtain ⟨length, labelled, found⟩ := found
  split at found
  · rename_i rest shape
    split at found
    · rename_i linkable
      simp only [Option.bind_eq_some_iff] at found
      obtain ⟨⟨title, closing⟩, titled, found⟩ := found
      split at found
      · simp only [Option.some.injEq, Prod.mk.injEq] at found
        obtain ⟨rfl, rfl⟩ := found
        have restLine : '\n' ∉ rest := fun member =>
          line (List.mem_of_mem_drop (shape ▸ List.mem_cons_of_mem _ member))
        have titleLine := (mem_of_readTitle? titled).1
        refine ⟨linkable, fun c member => ?_, ?_, ?_, ?_⟩
        · have kept := List.all_eq_true.mp List.all_takeWhile c member
          simp only [Bool.and_eq_true, Bool.not_eq_true'] at kept
          exact kept.2
        · intro member
          exact restLine ((List.takeWhile_sublist _).mem member)
        · intro member
          exact line (List.mem_of_mem_take (mem_of_mem_plainLabel member))
        · intro words inTitle member
          have inside := (List.dropWhile_sublist _).mem (titleLine words inTitle _ member)
          exact restLine (List.mem_of_mem_drop inside)
      · simp at found
    · simp at found
  · simp at found

theorem sound_of_targetStep? {part : Inline} {taken : Nat}
    (found : targetStep? text = some (.whole part taken)) (line : '\n' ∉ text) : part.Sound := by
  unfold targetStep? at found
  split at found
  · obtain ⟨⟨target, after⟩, read, same⟩ := Option.map_eq_some_iff.mp found
    simp only [Step.whole.injEq] at same
    exact same.1 ▸ .image (sound_of_readTarget? read (by simp_all))
  · obtain ⟨⟨target, after⟩, read, same⟩ := Option.map_eq_some_iff.mp found
    simp only [Step.whole.injEq] at same
    exact same.1 ▸ .link (sound_of_readTarget? read (by simp_all))
  · simp at found

/-- A bare address is a start of the text at which it is read. -/
theorem isStart_of_bareAddress? {previous : Option Char} {address : List Char}
    (found : bareAddress? previous text = some address) : address ≠ [] ∧ address <+: text := by
  unfold bareAddress? at found
  split at found
  · simp at found
  · obtain ⟨scheme, _, found⟩ := Option.bind_eq_some_iff.mp found
    simp only at found
    split at found
    · simp at found
    · rename_i filled
      obtain rfl := Option.some.inj found
      have start := (dropEndWhile_isStart isClosingMark _).trans
        (List.takeWhile_prefix (fun c => !isBlank c) (l := text.drop scheme.length))
      have whole := (List.prefix_append_right_inj (text.take scheme.length)).mpr start
      rw [List.take_append_drop] at whole
      exact ⟨by simpa using fun _ => filled, whole⟩

/-- Every part that a step reads whole is sound. -/
theorem sound_of_step {previous : Option Char} {c : Char} {rest : List Char} {part : Inline}
    {taken : Nat} (found : step previous c rest = .whole part taken) (line : '\n' ∉ c :: rest) :
    part.Sound := by
  have single : Inline.Sound (.text [c]) := .text (by simp_all)
  unfold step at found
  split at found
  · rename_i next others
    split at found
    · simp only [Step.whole.injEq] at found
      exact found.1 ▸ .text (by simp_all)
    · simp only [Step.whole.injEq] at found
      exact found.1 ▸ single
  · split at found
    · simp only [backtickStep] at found
      split at found
      · rename_i body read
        simp only [Step.whole.injEq] at found
        refine found.1 ▸ .code fun member => line ?_
        exact List.mem_of_mem_drop (mem_of_mem_untilBackticks? read (mem_of_mem_codeContent member))
      · simp only [Step.whole.injEq] at found
        exact found.1 ▸ .text fun member => absurd (List.eq_of_mem_replicate member) (by decide)
    · split at found
      · rename_i targeted
        exact sound_of_targetStep? (found ▸ targeted) line
      · split at found
        · rename_i address bare
          simp only [Step.whole.injEq] at found
          exact found.1 ▸ .text fun member => line ((isStart_of_bareAddress? bare).2.subset member)
        · cases styled : styledStep? previous (c :: rest) with
          | none =>
            simp only [styled, Option.getD_none, Step.whole.injEq] at found
            exact found.1 ▸ single
          | some other =>
            simp only [styled, Option.getD_some] at found
            subst found
            obtain ⟨delimiter, _, read⟩ := List.exists_of_findSome?_eq_some styled
            split at read
            · obtain ⟨_, _, read⟩ := Option.map_eq_some_iff.mp read
              cases read
            · simp at read

/-- The parts of a line are sound. -/
theorem sound_of_mem_inlinesFrom {previous : Option Char} (line : '\n' ∉ text) :
    ∀ part ∈ inlinesFrom previous text, part.Sound := by
  fun_induction inlinesFrom previous text with
  | case1 => simp
  | case2 previous c rest found more last part taken same ih =>
    have further : '\n' ∉ more := fun member =>
      line (List.mem_cons_of_mem _ (List.mem_of_mem_drop member))
    exact List.forall_mem_cons.mpr ⟨sound_of_step same line, ih further⟩
  | case3 previous c rest found more last style width length same ihContent ihMore =>
    have further : '\n' ∉ more := fun member =>
      line (List.mem_cons_of_mem _ (List.mem_of_mem_drop member))
    refine List.forall_mem_cons.mpr ⟨.styled (ihContent fun member => line ?_), ihMore further⟩
    exact List.mem_cons_of_mem _ (List.mem_of_mem_drop (List.mem_of_mem_take member))

theorem sound_of_mem_inlines (line : '\n' ∉ text) : ∀ part ∈ inlines text, part.Sound :=
  sound_of_mem_inlinesFrom line

/-- A block whose parts were read from lines. -/
def Block.Sound : Block → Prop
  | code language _ => ∀ word ∈ language, '\n' ∉ word
  | quoteOpen => True
  | quoteClose => True
  | heading level content => 1 ≤ level ∧ level ≤ 6 ∧ ∀ part ∈ content, part.Sound
  | rule => True
  | outline items => ∀ item ∈ items.items, '\n' ∉ item.content
  | line content _ => ∀ part ∈ content, part.Sound

/-- A raw line without a line feed, or a sound block. -/
def Line.Sound : Line → Prop
  | raw written => '\n' ∉ written
  | done block => block.Sound

theorem mem_of_dropIndent? {columns : Nat} {line rest : List Char}
    (found : dropIndent? columns line = some rest) {c : Char} (member : c ∈ rest) : c ∈ line := by
  fun_induction dropIndent? columns line with
  | case1 => simp_all
  | case2 => simp at found
  | case3 => simp_all
  | case4 columns others ih => exact List.mem_cons_of_mem _ (ih found)
  | case5 => simp at found
  | case6 => simp_all

/-- Code blocks are sound, because the language of a fence stands on its line. -/
theorem sound_of_codeBlock? {afterBlank : Bool} {line : List Char} {rest after : List (List Char)}
    {block : Block} (found : codeBlock? afterBlank line rest = some (block, after))
    (clean : '\n' ∉ line) : block.Sound := by
  rcases cases_of_codeBlock? found with ⟨fence, texts, read, -, rfl⟩ | ⟨texts, -, rfl⟩
  · simp only [Fence.read?, Option.bind_eq_bind, Option.bind_eq_some_iff] at read
    obtain ⟨unindented, dropped, marker, _, read⟩ := read
    split at read
    · simp only [Option.some.injEq] at read
      rw [← read]
      intro word named member
      simp only [Fence.language?] at named
      split at named
      · obtain rfl := Option.mem_some.mp named
        have inside := (List.dropWhile_sublist _).mem ((List.takeWhile_sublist _).mem member)
        exact clean (mem_of_dropIndent? dropped (List.mem_of_mem_drop inside))
      · simp at named
    · simp at read
  · simp [Block.Sound]

theorem sound_of_foldCodeFrom {afterBlank : Bool} {lines : List (List Char)}
    (clean : ∀ line ∈ lines, '\n' ∉ line) : ∀ line ∈ foldCodeFrom afterBlank lines, line.Sound := by
  fun_induction foldCodeFrom afterBlank lines with
  | case1 => simp
  | case2 afterBlank line rest block after found ih =>
    refine List.forall_mem_cons.mpr ⟨sound_of_codeBlock? found (clean line (by simp)), ih ?_⟩
    intro other member
    exact clean other (List.mem_cons_of_mem _ ((isEnd_of_codeBlock? found).mem member))
  | case3 afterBlank line rest _ ih =>
    refine List.forall_mem_cons.mpr ⟨clean line (by simp), ih ?_⟩
    intro other member
    exact clean other (List.mem_cons_of_mem _ member)

theorem mem_of_dropQuoteMarker? {line rest : List Char} (quoted : dropQuoteMarker? line = some rest)
    {c : Char} (member : c ∈ rest) : c ∈ line := by
  unfold dropQuoteMarker? at quoted
  split at quoted <;> simp_all

theorem sound_of_quoted? {line : Line} {rest : List Char} (quoted : line.quoted? = some rest)
    (sound : line.Sound) : Line.Sound (.raw rest) := by
  cases line with
  | raw written =>
      intro member
      exact sound (mem_of_dropQuoteMarker? quoted member)
  | done block => simp [Line.quoted?, Line.raw?] at quoted

theorem sound_of_markQuotes {inside : Bool} {lines : List Line}
    (sound : ∀ line ∈ lines, line.Sound) : ∀ line ∈ markQuotes inside lines, line.Sound := by
  have opening : Line.Sound (.done .quoteOpen) := trivial
  have closing : Line.Sound (.done .quoteClose) := trivial
  induction lines generalizing inside with
  | nil => cases inside <;> simp [markQuotes, closing]
  | cons line rest ih =>
    obtain ⟨first, others⟩ := List.forall_mem_cons.mp sound
    unfold markQuotes
    split
    · rename_i text quoted
      have shorter := sound_of_quoted? quoted first
      have later : ∀ line ∈ markQuotes true rest, line.Sound := ih others
      cases inside <;> simpa [opening, shorter] using later
    · have later : ∀ line ∈ markQuotes false rest, line.Sound := ih others
      cases inside <;> simpa [closing, first] using later

theorem sound_of_markAllQuotes {lines : List Line} (sound : ∀ line ∈ lines, line.Sound) :
    ∀ line ∈ markAllQuotes lines, line.Sound := by
  fun_induction markAllQuotes lines with
  | case1 lines quoted ih => exact ih (sound_of_markQuotes sound)
  | case2 lines done => exact sound

theorem mem_of_trim {drop : Char → Bool} {c : Char} (member : c ∈ dropBothWhile drop text) :
    c ∈ text :=
  (List.dropWhile_sublist _).mem ((dropEndWhile_isStart _ _).subset member)

theorem mem_of_dropClosingSigns {c : Char} (member : c ∈ dropClosingSigns text) : c ∈ text := by
  simp only [dropClosingSigns] at member
  split at member
  · exact (dropEndWhile_isStart _ _).subset ((dropEndWhile_isStart _ _).subset member)
  · exact member

theorem sound_of_heading? {level : Nat} {content : List Char}
    (found : heading? text = some (level, content)) (line : '\n' ∉ text) :
    Block.Sound (.heading level (inlines content)) := by
  simp only [heading?, Option.bind_eq_bind, Option.bind_eq_some_iff] at found
  obtain ⟨unindented, dropped, found⟩ := found
  split at found
  · rename_i bounds
    simp only [Option.some.injEq, Prod.mk.injEq] at found
    obtain ⟨rfl, rfl⟩ := found
    refine ⟨bounds.1, bounds.2.1, sound_of_mem_inlines fun member => line ?_⟩
    exact mem_of_dropIndent? dropped
      (List.mem_of_mem_drop (mem_of_trim (mem_of_dropClosingSigns member)))
  · simp at found

theorem level_of_underlineLevel? {level : Nat} (found : underlineLevel? text = some level) :
    1 ≤ level ∧ level ≤ 6 := by
  simp only [underlineLevel?, Option.bind_eq_bind, Option.bind_eq_some_iff] at found
  obtain ⟨_, _, _, _, found⟩ := found
  split at found
  · split at found
    · simp only [Option.some.injEq] at found
      omega
    · split at found
      · simp only [Option.some.injEq] at found
        omega
      · simp at found
  · simp at found

theorem mem_of_cutHardBreak {isLast : Bool} {c : Char}
    (member : c ∈ (cutHardBreak isLast text).1) : c ∈ text := by
  simp only [cutHardBreak] at member
  split at member
  · exact List.dropLast_subset _ (List.dropLast_subset _ member)
  · exact member

theorem mem_of_item {item : Item} (found : Item.read? text = some item) {c : Char}
    (member : c ∈ item.content) : c ∈ text := by
  simp only [Item.read?, Option.bind_eq_bind, Option.bind_eq_some_iff] at found
  obtain ⟨⟨ordered, rest⟩, marked, found⟩ := found
  split at found
  · simp only [Option.some.injEq] at found
    rw [← found] at member
    have inRest : c ∈ rest := (List.dropWhile_sublist _).mem member
    have inMarked : c ∈ text.dropWhile Item.isSpacing := by
      unfold Item.readMarker? at marked
      split at marked
      · rename_i first others shape
        have inDigits : c ∈ (text.dropWhile Item.isSpacing).dropWhile Char.isDigit := by
          rw [shape]
          split at marked
          · split at marked <;> simp_all
          · split at marked <;> simp_all
        exact (List.dropWhile_sublist _).mem inDigits
      · simp at marked
    exact (List.dropWhile_sublist _).mem inMarked
  · simp at found

theorem sound_of_readItems {lines : List Line} (sound : ∀ line ∈ lines, line.Sound) :
    (∀ item ∈ (readItems lines).1, '\n' ∉ item.content) ∧
      ∀ line ∈ (readItems lines).2, line.Sound := by
  induction lines with
  | nil => simp [readItems]
  | cons line rest ih =>
    obtain ⟨first, others⟩ := List.forall_mem_cons.mp sound
    unfold readItems
    split
    · rename_i item read
      obtain ⟨written, raw, isItem⟩ := Option.bind_eq_some_iff.mp read
      split at isItem
      · simp at isItem
      · have line_eq : line = .raw written := by
          cases line <;> simp_all [Line.raw?]
        subst line_eq
        refine ⟨List.forall_mem_cons.mpr ⟨fun member => first ?_, (ih others).1⟩, (ih others).2⟩
        exact mem_of_item isItem (mem_of_cutHardBreak member)
    · exact ⟨by simp, sound⟩

/-- A block that is read is sound, and so are the lines after it. -/
theorem sound_of_readBlock {rest : List Line} (line : '\n' ∉ text)
    (sound : ∀ line ∈ rest, line.Sound) :
    (readBlock text rest).1.Sound ∧ ∀ line ∈ (readBlock text rest).2, line.Sound := by
  unfold readBlock
  split
  · rename_i found underlined
    unfold underlined? at underlined
    split at underlined
    · split at underlined
      · obtain ⟨level, read, rfl⟩ := Option.map_eq_some_iff.mp underlined
        obtain ⟨low, high⟩ := level_of_underlineLevel? read
        refine ⟨⟨low, high, sound_of_mem_inlines fun member => line (mem_of_trim member)⟩, ?_⟩
        intro other member
        exact sound other (List.mem_cons_of_mem _ member)
      · simp at underlined
    · simp at underlined
  · split
    · exact ⟨trivial, sound⟩
    · split
      · rename_i level content heading
        exact ⟨sound_of_heading? heading line, sound⟩
      · split
        · rename_i found listed
          simp only [outline?] at listed
          split at listed
          · simp at listed
          · obtain ⟨outline, formed, rfl⟩ := Option.map_eq_some_iff.mp listed
            have items := sound_of_readItems (List.forall_mem_cons.mpr
              ⟨show Line.Sound (.raw text) from line, sound⟩)
            refine ⟨?_, items.2⟩
            simp only [Block.Sound, items_of_ofItems? formed]
            exact items.1
        · refine ⟨?_, sound⟩
          exact sound_of_mem_inlines fun member => line (mem_of_cutHardBreak member)

theorem sound_of_readBlocks {lines : List Line} (sound : ∀ line ∈ lines, line.Sound) :
    ∀ block ∈ readBlocks lines, block.Sound := by
  fun_induction readBlocks lines with
  | case1 => simp
  | case2 block rest ih =>
    obtain ⟨first, others⟩ := List.forall_mem_cons.mp sound
    exact List.forall_mem_cons.mpr ⟨first, ih others⟩
  | case3 text rest ih =>
    obtain ⟨first, others⟩ := List.forall_mem_cons.mp sound
    obtain ⟨own, after⟩ := sound_of_readBlock first others
    exact List.forall_mem_cons.mpr ⟨own, ih after⟩

/-- All blocks of a document are sound. -/
theorem sound_of_readDocument (text : List Char) : ∀ block ∈ readDocument text, block.Sound :=
  sound_of_readBlocks (sound_of_markAllQuotes (sound_of_foldCodeFrom
    fun _ member => not_mem_of_mem_splitAt member))

end PostMarkup.Markdown
