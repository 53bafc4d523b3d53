import PostMarkup.PlainText
import PostMarkup.Proofs.Link
import PostMarkup.Status

/-! # The text that markup shows

Text and tags that end no line are read piece by piece: a tag leaves nothing but the line feed of the
tags that end a line before it. So links and spans around escaped text show exactly this text.
-/

namespace PostMarkup.PlainText

open PostMarkup.Text PostMarkup.Link

variable {inRun : Bool} {c : Char} {front rest word : List Char} {tag : Tag}

/-- The line feed that is due after tags that end a line. -/
def due (inRun : Bool) : List Char := if inRun then ['\n'] else []

/-- The text of the rest of some HTML before its references are read; `inRun` says whether it follows a
tag that ends a line. -/
def textFrom (inRun : Bool) (html : List Char) : List Char := withoutTags (breakLines inRun html)

theorem textFrom_nil (inRun : Bool) : textFrom inRun [] = due inRun := by
  cases inRun <;> simp [textFrom, due, breakLines, withoutTags, withoutTags.outside]

theorem plain_of_lineEnd (listed : word ∈ lineEnds) : ∃ tag : Tag, tag.IsPlain ∧ tag.source = word := by
  have tags : lineEnds = [Tag.single "br".toList [], Tag.opening "br".toList [],
      Tag.stop paragraphName].map Tag.source := by decide
  have plain : ∀ tag ∈ [Tag.single "br".toList [], Tag.opening "br".toList [], Tag.stop paragraphName],
      tag.IsPlain := by
    simp only [List.forall_mem_cons]
    exact ⟨.single (by decide) (by simp), .opening (by decide) (by simp), .stop (by decide), by simp⟩
  rw [tags] at listed
  obtain ⟨tag, member, same⟩ := List.mem_map.mp listed
  exact ⟨tag, plain tag member, same⟩

/-- What starts with a tag that ends a line starts with no other tag. -/
theorem eq_of_lineEnd (written : tag.IsWritten) (listed : word ∈ lineEnds)
    (start : word <+: tag.source ++ rest) : tag.source = word := by
  obtain ⟨other, plain, rfl⟩ := plain_of_lineEnd listed
  obtain ⟨after, whole⟩ := start
  have first := Tag.read?_append plain.isWritten after
  rw [whole, Tag.read?_append written rest] at first
  rw [Option.some.inj first]

theorem breakLines_of_none (none : ∀ word ∈ lineEnds, ¬word <+: c :: rest) :
    breakLines inRun (c :: rest) = due inRun ++ c :: breakLines false rest := by
  have unfound : lineEnds.find? (·.isPrefixOf (c :: rest)) = .none := by
    rw [List.find?_eq_none]
    intro word listed start
    exact none word listed (List.isPrefixOf_iff_prefix.mp start)
  rw [breakLines, unfound]
  cases inRun <;> rfl

theorem breakLines_of_ne (differs : c ≠ '<') (rest : List Char) :
    breakLines inRun (c :: rest) = due inRun ++ c :: breakLines false rest := by
  apply breakLines_of_none
  rintro word listed ⟨after, same⟩
  have heads : ∀ word ∈ lineEnds, word.head? = some '<' := by decide
  obtain ⟨others, rfl⟩ := List.head?_eq_some_iff.mp (heads word listed)
  exact differs (List.cons.inj same).1.symm

theorem breakLines_append (clean : '<' ∉ front) (rest : List Char) :
    breakLines false (front ++ rest) = front ++ breakLines false rest := by
  induction front with
  | nil => rfl
  | cons c others ih =>
    simp only [List.mem_cons, not_or] at clean
    rw [List.cons_append, breakLines_of_ne (Ne.symm clean.1), ih clean.2]
    rfl

theorem breakLines_lineEnd (listed : word ∈ lineEnds) (rest : List Char) :
    breakLines inRun (word ++ rest) = word ++ breakLines true rest := by
  obtain ⟨tag, plain, rfl⟩ := plain_of_lineEnd listed
  obtain ⟨others, source⟩ := plain.isWritten.eq_cons
  have found : lineEnds.find? (·.isPrefixOf (tag.source ++ rest)) = some tag.source := by
    cases first : lineEnds.find? (·.isPrefixOf (tag.source ++ rest)) with
    | none =>
      have start := List.find?_eq_none.mp first _ listed
      exact absurd (List.isPrefixOf_iff_prefix.mpr (List.prefix_append ..)) start
    | some word =>
      have start := List.find?_some first
      rw [eq_of_lineEnd plain.isWritten (List.mem_of_find?_eq_some first)
        (List.isPrefixOf_iff_prefix.mp start)]
  rw [source, List.cons_append] at found ⊢
  rw [breakLines, found]
  simp

theorem withoutTags_append (clean : '<' ∉ front) (rest : List Char) :
    withoutTags (front ++ rest) = front ++ withoutTags rest := by
  induction front with
  | nil => rfl
  | cons c others ih =>
    simp only [List.mem_cons, not_or] at clean
    have later := ih clean.2
    unfold withoutTags at later ⊢
    rw [List.cons_append, withoutTags.outside, if_neg (Ne.symm clean.1), later, List.cons_append]

theorem withoutTags_tag (compact : tag.IsCompact) (rest : List Char) :
    withoutTags (tag.source ++ rest) = withoutTags rest := by
  obtain ⟨inner, source, less, clean⟩ := compact
  have inside : withoutTags.inside (inner ++ '>' :: rest) = withoutTags.outside rest := by
    clear source less
    induction inner with
    | nil => simp [withoutTags.inside]
    | cons c others ih =>
      simp only [List.mem_cons, not_or] at clean
      rw [List.cons_append, withoutTags.inside, if_neg (Ne.symm clean.1), ih clean.2]
  simpa [withoutTags, withoutTags.outside, source] using inside

/-- A tag that ends no line leaves the line feed that is due before it. -/
theorem textFrom_tag (plain : tag.IsPlain) (inner : tag.source ∉ lineEnds) (rest : List Char) :
    textFrom inRun (tag.source ++ rest) = due inRun ++ textFrom false rest := by
  have none : ∀ word ∈ lineEnds, ¬word <+: tag.source ++ rest := by
    intro word listed start
    exact inner (eq_of_lineEnd plain.isWritten listed start ▸ listed)
  have clean : '<' ∉ due inRun := by cases inRun <;> decide
  obtain ⟨content, source, less, _⟩ := plain.isCompact
  have less' : '<' ∉ content ++ ['>'] := List.not_mem_append less (by decide)
  have broken : breakLines inRun (tag.source ++ rest) =
      due inRun ++ (tag.source ++ breakLines false rest) := by
    rw [source, List.cons_append] at none ⊢
    rw [breakLines_of_none none, breakLines_append less', List.cons_append]
  rw [textFrom, broken, withoutTags_append clean, withoutTags_tag plain.isCompact]
  rfl

/-- A tag that ends a line makes a line feed due. -/
theorem textFrom_lineEnd (listed : word ∈ lineEnds) (rest : List Char) :
    textFrom inRun (word ++ rest) = textFrom true rest := by
  obtain ⟨tag, plain, rfl⟩ := plain_of_lineEnd listed
  rw [textFrom, breakLines_lineEnd listed, withoutTags_tag plain.isCompact]
  rfl

/-- Text without tags follows the line feed that is due before it. -/
theorem textFrom_append (clean : '<' ∉ front) (nonempty : front ≠ []) (rest : List Char) :
    textFrom inRun (front ++ rest) = due inRun ++ (front ++ textFrom false rest) := by
  obtain ⟨c, others, rfl⟩ := List.exists_cons_of_ne_nil nonempty
  have clean' : '<' ∉ due inRun ++ (c :: others) :=
    List.not_mem_append (by cases inRun <;> decide) clean
  simp only [List.mem_cons, not_or] at clean
  have broken : breakLines inRun (c :: others ++ rest) =
      due inRun ++ (c :: others) ++ breakLines false rest := by
    rw [List.cons_append, breakLines_of_ne (Ne.symm clean.1), breakLines_append clean.2]
    simp
  rw [textFrom, broken, withoutTags_append clean', List.append_assoc]
  rfl

end PostMarkup.PlainText

namespace PostMarkup

open PostMarkup.Text PostMarkup.Link PostMarkup.PlainText

def linkNames : List (List Char) := [linkName, spanName]

/-- Escaped text with the tags of links in it, and the text that it shows. -/
inductive Shows : List Char → List Char → Prop
  | nil : Shows [] []
  | char {c : Char} {html text : List Char} : Shows html text → Shows (escapeChar c ++ html) (c :: text)
  | tag {tag : Tag} {html text : List Char} : tag.IsPlain → tag.name ∈ linkNames → Shows html text →
      Shows (tag.source ++ html) text

namespace Shows

variable {html text front word name : List Char} {attributes : List Attribute}

theorem append (first : Shows front word) (second : Shows html text) :
    Shows (front ++ html) (word ++ text) := by
  induction first with
  | nil => exact second
  | @char c _ _ _ ih =>
    rw [List.append_assoc]
    exact .char ih
  | tag plain named _ ih =>
    rw [List.append_assoc]
    exact .tag plain named ih

/-- A character that is not escaped shows itself. -/
theorem own {c : Char} (own : escapeChar c = [c]) (shows : Shows html text) : Shows (c :: html) (c :: text) := by
  have first : Shows (escapeChar c ++ html) (c :: text) := .char shows
  rwa [own] at first

theorem escaped (text : List Char) : Shows (escapeText text) text := by
  induction text with
  | nil => exact .nil
  | cons c rest ih => exact .char ih

/-- An element of a link around what shows a text. -/
theorem enclosed (named : Tag.isName name = true) (listed : name ∈ linkNames)
    (given : Attribute.Ordinary attributes) (inside : Shows html text) :
    Shows ((Tag.opening name attributes).source ++ (html ++ (Tag.stop name).source)) text := by
  have last : Shows ((Tag.stop name).source ++ []) [] := .tag (.stop named) listed .nil
  have whole := inside.append last
  rw [List.append_nil, List.append_nil] at whole
  exact .tag (.opening named fun entry member => (given entry member).1) listed whole

/-- The tags of links end no line. -/
theorem not_lineEnd {tag : Tag} (plain : tag.IsPlain) (named : tag.name ∈ linkNames) :
    tag.source ∉ lineEnds := by
  intro listed
  have other : ∀ word ∈ lineEnds, ∀ tag ∈ Tag.read? word, tag.name ∉ linkNames := by decide
  exact other _ listed tag plain.isWritten named

/-- A line end is written only for itself. -/
theorem lineEnd_not_mem_escapeChar {c mark : Char} (lineEnd : mark = '\r' ∨ mark = '\n') (differs : mark ≠ c) :
    mark ∉ escapeChar c := by
  intro member
  have own : mark ∈ [c] := by
    rcases lineEnd with rfl | rfl
    all_goals exact mem_of_mem_escapeText (by simpa using member) (by decide) (by decide)
  exact differs (List.mem_singleton.mp own)

theorem escapeChar_ne_nil (c : Char) : escapeChar c ≠ [] := by
  simpa using mt (escapeText_eq_nil_iff [c]).mp (by simp)

/-- The text behind the tags of links is the escaped text. -/
theorem withoutTags_eq (shows : Shows html text) : withoutTags html = escapeText text := by
  induction shows with
  | nil => rfl
  | char _ ih => rw [withoutTags_append (not_mem_escapeChar _).1, ih, escapeText_cons]
  | tag plain _ _ ih => rw [withoutTags_tag plain.isCompact, ih]

/-- What links and escaped text leave of the rest of some HTML. -/
theorem textFrom_eq (shows : Shows html text) (rest : List Char) :
    textFrom false (html ++ rest) = withoutTags html ++ textFrom false rest := by
  rw [shows.withoutTags_eq]
  induction shows with
  | nil => rfl
  | char _ ih =>
    rw [List.append_assoc, textFrom_append (not_mem_escapeChar _).1 (escapeChar_ne_nil _), ih]
    simp [due]
  | tag plain named _ ih =>
    rw [List.append_assoc, textFrom_tag plain (not_lineEnd plain named), ih]
    rfl

/-- A line feed that is due comes before them. -/
theorem textFrom_eq_of_ne (shows : Shows html text) (nonempty : html ≠ []) (inRun : Bool) (rest : List Char) :
    textFrom inRun (html ++ rest) = due inRun ++ (withoutTags html ++ textFrom false rest) := by
  cases shows with
  | nil => exact absurd rfl nonempty
  | char later =>
    rw [List.append_assoc, textFrom_append (not_mem_escapeChar _).1 (escapeChar_ne_nil _), later.textFrom_eq,
      withoutTags_append (not_mem_escapeChar _).1, List.append_assoc]
  | tag plain named later =>
    rw [List.append_assoc, textFrom_tag plain (not_lineEnd plain named), later.textFrom_eq,
      withoutTags_tag plain.isCompact]

/-- Such HTML has the text that it shows. -/
theorem ofHtml_eq (shows : Shows html text) : ofHtml html = text := by
  have unbroken : textFrom false html = withoutTags html := by
    have whole := shows.textFrom_eq []
    rwa [textFrom_nil, due, if_neg Bool.false_ne_true, List.append_nil, List.append_nil] at whole
  calc ofHtml html
      = unescape (withoutTags html) := congrArg unescape unbroken
    _ = text := by rw [shows.withoutTags_eq, unescape_escapeText]

end Shows

/-- Reading the references of an escaped text or of an escaped value gives it back, and an escaped text has no
tags. So a post of another server whose markup is an escaped text has this text, whatever references and tags
it holds itself. -/
theorem plainText_escapeText (text : List Char) : unescape (escapeText text) = text ∧
    unescape (escapeAttribute text) = text ∧ withoutTags (escapeText text) = escapeText text ∧
      ∀ post : Post, post.isLocal = false → post.text = escapeText text → post.plainText = text := by
  have shown := Shows.escaped text
  refine ⟨unescape_escapeText text, unescape_escapeAttribute text, shown.withoutTags_eq, ?_⟩
  intro post foreign written
  rw [Post.plainText, if_neg (by simp [foreign]), written]
  exact shown.ofHtml_eq

/-- A post whose escaped text holds a reference to the ampersand of another one, a numeral, a tag that ends a
line and a reference without its end. -/
theorem plainText_escapeText_references :
    let text := "&amp;lt;&#38;<br>&am".toList
    let post : Post := ⟨"&amp;amp;lt;&amp;#38;&lt;br&gt;&amp;am".toList, [], false,
      .onServer "a".toList "b.c".toList "https://b.c/a".toList, [], []⟩
    post.isLocal = false ∧ post.text = escapeText text ∧ post.plainText = text := by
  intro text post
  have escaped : post.text = escapeText text := by decide
  exact ⟨rfl, escaped, (plainText_escapeText text).2.2.2 post rfl escaped⟩

end PostMarkup
