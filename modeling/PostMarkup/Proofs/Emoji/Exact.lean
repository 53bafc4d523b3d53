import PostMarkup.Proofs.Emoji

/-! # What replacing shortcodes changes

Where angle brackets only delimit tags, the reader of shortcodes copies the markup but for known
shortcodes with their two colons. Each of them stands in one stretch of text, outside the regions that
the reader takes for invisible. What it leaves is left for good: reading its own output again, with the
same map, it replaces nothing, whatever the markup is.
-/

namespace PostMarkup.Emoji

open PostMarkup.Markdown

/-- Whether angle brackets only delimit tags. -/
inductive Delimited : List Char → Prop
  | nil : Delimited []
  | char {c : Char} {rest : List Char} : c ≠ '<' → c ≠ '>' → Delimited rest → Delimited (c :: rest)
  | tag {inner rest : List Char} : '<' ∉ inner ∧ '>' ∉ inner → Delimited rest →
      Delimited ('<' :: (inner ++ '>' :: rest))

/-- Markup and the same with some shortcodes replaced by their images, where `depth` elements are open
inside an invisible region. Tags are copied, and so are the characters between them but for known
shortcodes outside invisible regions. -/
inductive Replaced (map : EmojiImages) : Nat → List Char → List Char → Prop
  | nil {depth : Nat} : Replaced map depth [] []
  | char {depth : Nat} {c : Char} {rest out : List Char} : c ≠ '<' → c ≠ '>' → Replaced map depth rest out →
      Replaced map depth (c :: rest) (c :: out)
  | tag {depth : Nat} {inner rest out : List Char} : '<' ∉ inner ∧ '>' ∉ inner →
      Replaced map (depthAfter depth ('<' :: (inner ++ ['>'])).reverse) rest out →
      Replaced map depth ('<' :: (inner ++ '>' :: rest)) ('<' :: (inner ++ '>' :: out))
  | code {shortcode url rest out : List Char} : ':' ∉ shortcode → '<' ∉ shortcode ∧ '>' ∉ shortcode →
      map.get? shortcode = some url → Replaced map 0 rest out →
      Replaced map 0 (':' :: (shortcode ++ ':' :: rest)) (image shortcode url ++ out)

variable {map : EmojiImages} {markup soFar rest out : List Char} {depth : Nat} {c : Char}

theorem Delimited.chars {text : List Char} (clean : '<' ∉ text ∧ '>' ∉ text) (delimited : Delimited rest) :
    Delimited (text ++ rest) := by
  induction text with
  | nil => exact delimited
  | cons c others ih =>
    simp only [List.mem_cons, not_or] at clean
    obtain ⟨⟨less, less'⟩, greater, greater'⟩ := clean
    exact .char (Ne.symm less) (Ne.symm greater) (ih ⟨less', greater'⟩)

/-- Markup may be copied as it is. -/
theorem Replaced.refl (delimited : Delimited markup) (depth : Nat) : Replaced map depth markup markup := by
  induction delimited generalizing depth with
  | nil => exact .nil
  | char less greater _ ih => exact .char less greater (ih depth)
  | tag clean _ ih => exact .tag clean (ih _)

/-- Text is copied before replaced markup. -/
theorem Replaced.chars {text : List Char} (clean : '<' ∉ text ∧ '>' ∉ text) (replaced : Replaced map depth rest out) :
    Replaced map depth (text ++ rest) (text ++ out) := by
  induction text with
  | nil => exact replaced
  | cons c others ih =>
    simp only [List.mem_cons, not_or] at clean
    obtain ⟨⟨less, less'⟩, greater, greater'⟩ := clean
    exact .char (Ne.symm less) (Ne.symm greater) (ih ⟨less', greater'⟩)

/-- Whether what the reader writes for the rest of some markup shows it with shortcodes replaced, in text
and after an open colon. -/
structure Replaces (map : EmojiImages) (rest : List Char) : Prop where
  text : ∀ depth, Replaced map depth rest (replaceFrom map depth .text rest)
  code : ∀ depth soFar, ':' ∉ soFar → '<' ∉ soFar ∧ '>' ∉ soFar →
    Replaced map depth (':' :: soFar.reverse ++ rest) (replaceFrom map depth (.code soFar) rest)

namespace Replaces

/-- A colon and what stands after it are text. -/
theorem clean_pending (clean : '<' ∉ soFar ∧ '>' ∉ soFar) : '<' ∉ ':' :: soFar.reverse ∧ '>' ∉ ':' :: soFar.reverse := by
  simpa using clean

theorem nil : Replaces map [] where
  text _ := .nil
  code depth soFar _ clean := by
    simpa [replaceFrom, Reading.pending] using Replaced.nil.chars (clean_pending clean)

theorem char (less : c ≠ '<') (greater : c ≠ '>') (later : Replaces map rest) : Replaces map (c :: rest) where
  text depth := by
    rw [replaceFrom, if_neg less]
    split
    · rename_i colon
      subst colon
      exact later.code depth [] (by simp) (by simp)
    · exact .char less greater (later.text depth)
  code depth soFar plain clean := by
    rw [replaceFrom, if_neg less]
    by_cases colon : c = ':'
    · subst colon
      rw [if_pos rfl]
      split
      · rename_i url shown
        split at shown
        · rename_i outside
          subst outside
          simpa using Replaced.code (by simpa using plain) (by simpa using clean) shown (later.text 0)
        · cases shown
      · exact (later.code depth [] (by simp) (by simp)).chars (clean_pending clean)
    · have plain' : ':' ∉ c :: soFar := List.not_mem_cons_of_ne_of_not_mem (Ne.symm colon) plain
      have clean' : '<' ∉ c :: soFar ∧ '>' ∉ c :: soFar :=
        ⟨List.not_mem_cons_of_ne_of_not_mem (Ne.symm less) clean.1,
          List.not_mem_cons_of_ne_of_not_mem (Ne.symm greater) clean.2⟩
      rw [if_neg colon]
      simpa using later.code depth (c :: soFar) plain' clean'

theorem tag {inner : List Char} (clean : '<' ∉ inner ∧ '>' ∉ inner) (later : Replaces map rest) :
    Replaces map ('<' :: (inner ++ '>' :: rest)) := by
  have copied (depth : Nat) : Replaced map depth ('<' :: (inner ++ '>' :: rest))
      ('<' :: replaceFrom map depth (.tag ['<']) (inner ++ '>' :: rest)) := by
    rw [replaceFrom_inside clean]
    refine .tag clean ?_
    simpa using later.text (depthAfter depth ('>' :: (inner.reverse ++ ['<'])))
  constructor
  · intro depth
    rw [replaceFrom, if_pos rfl]
    exact copied depth
  · intro depth soFar _ clean'
    have colon : ('<' : Char) ≠ ':' := by decide
    rw [replaceFrom, if_neg colon, if_pos rfl]
    exact (copied depth).chars (clean_pending clean')

end Replaces

theorem replaces (delimited : Delimited markup) : Replaces map markup := by
  induction delimited with
  | nil => exact .nil
  | char less greater _ ih => exact .char less greater ih
  | tag clean _ ih => exact .tag clean ih

/-- What is written after an open colon starts with a colon or with a tag. -/
theorem exists_cons_replaceFrom_code (map : EmojiImages) (depth : Nat) (soFar text : List Char) :
    ∃ c others, replaceFrom map depth (.code soFar) text = c :: others ∧ (c = ':' ∨ c = '<') := by
  induction text generalizing soFar with
  | nil => exact ⟨':', soFar.reverse, rfl, .inl rfl⟩
  | cons c rest ih =>
    rw [replaceFrom]
    split
    · split
      · exact ⟨'<', _, rfl, .inr rfl⟩
      · exact ⟨':', _, rfl, .inl rfl⟩
    · split
      · exact ⟨':', _, rfl, .inl rfl⟩
      · exact ih (c :: soFar)

/-- Text without colons and tags is read on after an open colon. -/
theorem replaceFrom_pending {text : List Char} (plain : ':' ∉ text) (less : '<' ∉ text) (rest : List Char) :
    replaceFrom map depth (.code soFar) (text ++ rest) =
      replaceFrom map depth (.code (text.reverse ++ soFar)) rest := by
  induction text generalizing soFar with
  | nil => rfl
  | cons c others ih =>
    simp only [List.mem_cons, not_or] at plain less
    rw [List.cons_append, replaceFrom, if_neg (Ne.symm plain.1), if_neg (Ne.symm less.1), ih plain.2 less.2]
    simp

/-- An open colon is read as text before a tag, before the end, and before a colon with which it makes up
no known shortcode. -/
theorem replaceFrom_code_of_unknown
    (ends : ∀ c others, rest = c :: others →
      c = '<' ∨ c = ':' ∧ (if depth = 0 then map.get? soFar.reverse else none) = none) :
    replaceFrom map depth (.code soFar) rest = ':' :: soFar.reverse ++ replaceFrom map depth .text rest := by
  cases rest with
  | nil => simp [replaceFrom, Reading.pending]
  | cons c others =>
    rcases ends c others rfl with rfl | ⟨rfl, unknown⟩
    · simp [replaceFrom]
    · simp [replaceFrom, unknown]

/-- What a reader of text makes of its own output. -/
structure Settled (map : EmojiImages) (rest : List Char) : Prop where
  text : ∀ depth, replaceFrom map depth .text (replaceFrom map depth .text rest) = replaceFrom map depth .text rest
  code : ∀ depth soFar, ':' ∉ soFar → '<' ∉ soFar →
    replaceFrom map depth .text (replaceFrom map depth (.code soFar) rest) = replaceFrom map depth (.code soFar) rest
  tag : ∀ depth soFar, replaceFrom map depth (.tag soFar) (replaceFrom map depth (.tag soFar) rest) =
    replaceFrom map depth (.tag soFar) rest

namespace Settled

/-- What was pending is left as it was, if what is written after it is. -/
theorem pending {written : List Char} (plain : ':' ∉ soFar) (less : '<' ∉ soFar)
    (settled : replaceFrom map depth .text written = written)
    (ends : ∀ c others, written = c :: others →
      c = '<' ∨ c = ':' ∧ (if depth = 0 then map.get? soFar.reverse else none) = none) :
    replaceFrom map depth .text (':' :: soFar.reverse ++ written) = ':' :: soFar.reverse ++ written := by
  have colon : (':' : Char) ≠ '<' := by decide
  rw [List.cons_append, replaceFrom, if_neg colon, if_pos rfl,
    replaceFrom_pending (by simpa using plain) (by simpa using less), List.reverse_reverse, List.append_nil,
    replaceFrom_code_of_unknown ends, settled]
  rfl

theorem image {shortcode url : List Char} (settled : Settled map rest) :
    replaceFrom map 0 .text (image shortcode url ++ replaceFrom map 0 .text rest) =
      Emoji.image shortcode url ++ replaceFrom map 0 .text rest := by
  have compact : (Tag.single imageName (imageAttributes shortcode url)).IsCompact :=
    Tag.single_isCompact (by decide) (imageAttributes_isClean shortcode url)
  have visible : Emoji.image shortcode url ≠ hiddenRegionTag := by
    intro same
    have start : (Emoji.image shortcode url).take 2 = "<i".toList := rfl
    rw [same] at start
    exact absurd start (by decide)
  have shallow : depthAfter 0 (Emoji.image shortcode url).reverse = 0 := by simp [depthAfter, visible]
  rw [image_eq] at shallow ⊢
  rw [(replaceFrom_tag map compact 0 _).1, shallow, settled.text]

theorem nil : Settled map [] where
  text _ := rfl
  code depth soFar plain less := by
    have kept : replaceFrom map depth .text (':' :: soFar.reverse ++ []) = ':' :: soFar.reverse ++ [] :=
      pending plain less rfl (by simp)
    simpa [replaceFrom, Reading.pending] using kept
  tag _ _ := rfl

/-- A colon closes a known shortcode, or what was pending is text and the colon is open. -/
theorem closed (settled : Settled map rest) (plain : ':' ∉ soFar) (less : '<' ∉ soFar) :
    replaceFrom map depth .text (replaceFrom map depth (.code soFar) (':' :: rest)) =
      replaceFrom map depth (.code soFar) (':' :: rest) := by
  cases shown : if depth = 0 then map.get? soFar.reverse else none with
  | some url =>
    have outside : depth = 0 := by
      by_contra inside
      simp [inside] at shown
    subst outside
    have written : replaceFrom map 0 (.code soFar) (':' :: rest) =
        Emoji.image soFar.reverse url ++ replaceFrom map 0 .text rest := by
      rw [replaceFrom, if_pos rfl, shown]
    rw [written, settled.image]
  | none =>
    have written : replaceFrom map depth (.code soFar) (':' :: rest) =
        ':' :: soFar.reverse ++ replaceFrom map depth (.code []) rest := by
      rw [replaceFrom, if_pos rfl, shown]
    rw [written]
    refine pending plain less (settled.code depth [] (by simp) (by simp)) fun c others same => ?_
    obtain ⟨first, further, starts, known⟩ := exists_cons_replaceFrom_code map depth [] rest
    obtain ⟨rfl, _⟩ := List.cons.inj (starts.symm.trans same)
    exact known.symm.imp_right fun colon => ⟨colon, shown⟩

/-- A tag makes text of what was pending. -/
theorem broken (settled : Settled map rest) (plain : ':' ∉ soFar) (less : '<' ∉ soFar) :
    replaceFrom map depth .text (replaceFrom map depth (.code soFar) ('<' :: rest)) =
      replaceFrom map depth (.code soFar) ('<' :: rest) := by
  have colon : ('<' : Char) ≠ ':' := by decide
  have written : replaceFrom map depth (.code soFar) ('<' :: rest) =
      ':' :: soFar.reverse ++ '<' :: replaceFrom map depth (.tag ['<']) rest := by
    rw [replaceFrom, if_neg colon, if_pos rfl]
  have kept : replaceFrom map depth .text ('<' :: replaceFrom map depth (.tag ['<']) rest) =
      '<' :: replaceFrom map depth (.tag ['<']) rest := by
    rw [replaceFrom, if_pos rfl, settled.tag]
  rw [written]
  exact pending plain less kept fun c others same => .inl (List.cons.inj same).1.symm

theorem cons (settled : Settled map rest) (c : Char) : Settled map (c :: rest) where
  text depth := by
    by_cases less : c = '<'
    · have written : replaceFrom map depth .text (c :: rest) = c :: replaceFrom map depth (.tag [c]) rest := by
        rw [replaceFrom, if_pos less]
      rw [written, replaceFrom, if_pos less, settled.tag]
    · by_cases colon : c = ':'
      · have written : replaceFrom map depth .text (c :: rest) = replaceFrom map depth (.code []) rest := by
          rw [replaceFrom, if_neg less, if_pos colon]
        rw [written, settled.code depth [] (by simp) (by simp)]
      · have written : replaceFrom map depth .text (c :: rest) = c :: replaceFrom map depth .text rest := by
          rw [replaceFrom, if_neg less, if_neg colon]
        rw [written, replaceFrom, if_neg less, if_neg colon, settled.text]
  code depth soFar plain less := by
    by_cases colon : c = ':'
    · rw [colon]
      exact settled.closed plain less
    · by_cases other : c = '<'
      · rw [other]
        exact settled.broken plain less
      · have written : replaceFrom map depth (.code soFar) (c :: rest) = replaceFrom map depth (.code (c :: soFar)) rest := by
          rw [replaceFrom, if_neg colon, if_neg other]
        rw [written]
        exact settled.code depth (c :: soFar) (List.not_mem_cons_of_ne_of_not_mem (Ne.symm colon) plain)
          (List.not_mem_cons_of_ne_of_not_mem (Ne.symm other) less)
  tag depth soFar := by
    by_cases greater : c = '>'
    · have written : replaceFrom map depth (.tag soFar) (c :: rest) =
          c :: replaceFrom map (depthAfter depth (c :: soFar)) .text rest := by
        rw [replaceFrom, if_pos greater]
      rw [written, replaceFrom, if_pos greater, settled.text]
    · by_cases less : c = '<'
      · have written : replaceFrom map depth (.tag soFar) (c :: rest) = c :: replaceFrom map depth (.tag [c]) rest := by
          rw [replaceFrom, if_neg greater, if_pos less]
        rw [written, replaceFrom, if_neg greater, if_pos less, settled.tag]
      · have written : replaceFrom map depth (.tag soFar) (c :: rest) =
            c :: replaceFrom map depth (.tag (c :: soFar)) rest := by
          rw [replaceFrom, if_neg greater, if_neg less]
        rw [written, replaceFrom, if_neg greater, if_neg less, settled.tag]

end Settled

theorem settled (map : EmojiImages) (markup : List Char) : Settled map markup := by
  induction markup with
  | nil => exact .nil
  | cons c rest ih => exact ih.cons c

/-- Replacing shortcodes a second time changes nothing. -/
theorem replace_replace (map : EmojiImages) (markup : List Char) :
    replace map (replace map markup) = replace map markup := by
  unfold replace
  split
  · rfl
  · exact (settled map markup).text 0

/-- Where angle brackets only delimit tags, replacing shortcodes replaces some known ones, each in one
stretch of text outside invisible regions, copies everything else, and leaves none for a second time. -/
theorem replaced_replace (map : EmojiImages) (markup : List Char) (delimited : Delimited markup) :
    Replaced map 0 markup (replace map markup) ∧ replace map (replace map markup) = replace map markup := by
  refine ⟨?_, replace_replace map markup⟩
  unfold replace
  split
  · exact .refl delimited 0
  · exact (replaces delimited).text 0

/-- A colon that closes no shortcode opens the next one, and an invisible region keeps its text. -/
theorem replaced_replace_region :
    let map : EmojiImages := ⟨[("b".toList, "u".toList)]⟩
    let markup := "<i>:a:b:</i><span class=\"invisible\">:b:</span>".toList
    Delimited markup ∧ Replaced map 0 markup (replace map markup) ∧
      replace map (replace map markup) = replace map markup ∧
      replace map markup = "<i>:a".toList ++ image ['b'] ['u'] ++ "</i><span class=\"invisible\">:b:</span>".toList := by
  intro map markup
  have region : Delimited ('<' :: ("span class=\"invisible\"".toList ++ '>' ::
      (":b:".toList ++ '<' :: ("/span".toList ++ '>' :: [])))) :=
    .tag (by decide) (.chars (by decide) (.tag (by decide) .nil))
  have delimited : Delimited ('<' :: (['i'] ++ '>' :: (":a:b:".toList ++ '<' :: ("/i".toList ++ '>' :: _)))) :=
    .tag (by decide) (.chars (by decide) (.tag (by decide) region))
  obtain ⟨replaced, again⟩ := replaced_replace map markup delimited
  exact ⟨delimited, replaced, again, by decide⟩

end PostMarkup.Emoji
