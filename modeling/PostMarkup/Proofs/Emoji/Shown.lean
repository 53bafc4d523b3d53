import PostMarkup.Emoji
import PostMarkup.Proofs.Markup.Written

/-! # Shortcodes between tags

The reader of shortcodes takes the first `>` for the end of a tag, also inside quotes. A tag is still
copied as a whole unless a colon after such a `>` starts a shortcode: one that another colon follows
before the next `<`. Markup without such tags keeps all its tags, whatever the shortcodes are.
-/

namespace PostMarkup

/-- Whether a colon after the first `>` of a tag starts a possible shortcode, which ends in the tag
or in the text `after` it. -/
def Tag.ExposesCode (tag : Tag) (after : List Char) : Prop :=
  ∃ front back shortcode rest, tag.source = front ++ ':' :: back ∧ '>' ∈ front ∧
    back ++ after = shortcode ++ ':' :: rest ∧ '<' ∉ shortcode

namespace Emoji

/-- Pieces of markup and the same with some shortcodes shown as images. Tags are copied, and so are
all characters between them but for known shortcodes with their two colons. -/
inductive Shown (map : EmojiImages) : List Piece → List Char → Prop
  | nil : Shown map [] []
  | tag {tag : Tag} {rest : List Piece} {out : List Char} : Shown map rest out →
      Shown map (.tag tag :: rest) (tag.source ++ out)
  | char {c : Char} {rest : List Piece} {out : List Char} : Shown map rest out →
      Shown map (.char c :: rest) (c :: out)
  | code {shortcode url : List Char} {rest : List Piece} {out : List Char} : ':' ∉ shortcode →
      map.get? shortcode = some url → Shown map rest out →
      Shown map ((':' :: shortcode ++ [':']).map .char ++ rest) (image shortcode url ++ out)

variable {map : EmojiImages} {parts : List Piece} {text soFar : List Char} {depth : Nat}

theorem Shown.chars (shown : Shown map parts text) (front : List Char) :
    Shown map (front.map .char ++ parts) (front ++ text) := by
  induction front with
  | nil => exact shown
  | cons c rest ih => exact .char ih

/-- A colon is read as text if no other colon follows before the next `<`. -/
theorem replaceFrom_unclosed
    (unclosed : ∀ shortcode rest, text = shortcode ++ ':' :: rest → '<' ∈ shortcode) :
    replaceFrom map depth (.code soFar) text =
      ':' :: soFar.reverse ++ replaceFrom map depth .text text := by
  induction text generalizing soFar with
  | nil => simp [replaceFrom, Reading.pending]
  | cons c rest ih =>
    have other : c ≠ ':' := by
      rintro rfl
      simpa using unclosed [] rest rfl
    by_cases less : c = '<'
    · simp [replaceFrom, less]
    · have later : ∀ shortcode further, rest = shortcode ++ ':' :: further → '<' ∈ shortcode := by
        rintro shortcode further rfl
        exact (List.mem_cons.mp (unclosed (c :: shortcode) further rfl)).resolve_left (Ne.symm less)
      have coded : replaceFrom map depth (.code soFar) (c :: rest) =
          replaceFrom map depth (.code (c :: soFar)) rest := by
        rw [replaceFrom, if_neg other, if_neg less]
      have read : replaceFrom map depth .text (c :: rest) = c :: replaceFrom map depth .text rest := by
        rw [replaceFrom, if_neg less, if_neg other]
      rw [coded, ih later, read]
      simp

/-- Whether the reader stands in what it takes for a tag, or in text after a `>` of the tag whose
characters `front` it has read. -/
def ReadsTag (front : List Char) : Reading → Prop
  | .tag _ => True
  | .text => '>' ∈ front
  | .code _ => False

/-- The rest of a tag is copied, and the reader then stands in text or in what it takes for a tag. -/
theorem replaceFrom_tagRest {tag : Tag} {front inner after : List Char}
    (covered : ¬ tag.ExposesCode after) (whole : tag.source = front ++ inner) (reading : Reading)
    (reads : ReadsTag front reading) (depth : Nat) :
    ∃ depth' reading', ReadsTag tag.source reading' ∧
      replaceFrom map depth reading (inner ++ after) = inner ++ replaceFrom map depth' reading' after := by
  induction inner generalizing front reading depth with
  | nil =>
    refine ⟨depth, reading, ?_, rfl⟩
    rwa [whole, List.append_nil]
  | cons c rest ih =>
    have whole' : tag.source = (front ++ [c]) ++ rest := by simp [whole]
    cases reading with
    | code _ => exact reads.elim
    | tag soFar =>
      rw [List.cons_append, replaceFrom]
      by_cases greater : c = '>'
      · obtain ⟨depth', reading', reads', same⟩ := ih whole' .text (by simp [ReadsTag, greater])
          (depthAfter depth (c :: soFar))
        exact ⟨depth', reading', reads', by rw [if_pos greater, same, List.cons_append]⟩
      · rw [if_neg greater]
        by_cases less : c = '<'
        · obtain ⟨depth', reading', reads', same⟩ := ih whole' (.tag [c]) trivial depth
          exact ⟨depth', reading', reads', by rw [if_pos less, same, List.cons_append]⟩
        · obtain ⟨depth', reading', reads', same⟩ := ih whole' (.tag (c :: soFar)) trivial depth
          exact ⟨depth', reading', reads', by rw [if_neg less, same, List.cons_append]⟩
    | text =>
      rw [List.cons_append, replaceFrom]
      by_cases less : c = '<'
      · obtain ⟨depth', reading', reads', same⟩ := ih whole' (.tag [c]) trivial depth
        exact ⟨depth', reading', reads', by rw [if_pos less, same, List.cons_append]⟩
      · obtain ⟨depth', reading', reads', same⟩ := ih whole' .text
          (List.mem_append_left _ reads) depth
        refine ⟨depth', reading', reads', ?_⟩
        rw [if_neg less]
        by_cases colon : c = ':'
        · subst colon
          have unclosed : ∀ shortcode further, rest ++ after = shortcode ++ ':' :: further →
              '<' ∈ shortcode := by
            intro shortcode further split
            exact Decidable.byContradiction fun clean =>
              covered ⟨front, rest, shortcode, further, whole, reads, split, clean⟩
          rw [if_pos rfl, replaceFrom_unclosed unclosed, same]
          rfl
        · rw [if_neg colon, same, List.cons_append]

/-- What the reader writes for pieces shows them, in text or in what it takes for a tag, and also
after a colon that is still open. -/
structure ShowsOn (map : EmojiImages) (parts : List Piece) : Prop where
  text : ∀ depth, Shown map parts (replaceFrom map depth .text (sourceOf parts))
  tag : ∀ depth soFar, Shown map parts (replaceFrom map depth (.tag soFar) (sourceOf parts))
  code : ∀ depth soFar, ':' ∉ soFar →
    Shown map ((':' :: soFar.reverse).map .char ++ parts)
      (replaceFrom map depth (.code soFar) (sourceOf parts))

namespace ShowsOn

theorem nil : ShowsOn map [] where
  text _ := .nil
  tag _ _ := .nil
  code _ soFar _ := by
    simpa [replaceFrom, Reading.pending] using Shown.nil.chars (':' :: soFar.reverse)

theorem char (later : ShowsOn map parts) (c : Char) : ShowsOn map (.char c :: parts) where
  text depth := by
    rw [sourceOf_cons, Piece.source, List.singleton_append, replaceFrom]
    split
    · exact .char (later.tag depth [c])
    · split
      · rename_i colon
        subst colon
        exact later.code depth [] (by simp)
      · exact .char (later.text depth)
  tag depth soFar := by
    rw [sourceOf_cons, Piece.source, List.singleton_append, replaceFrom]
    split
    · exact .char (later.text _)
    · split
      · exact .char (later.tag depth [c])
      · exact .char (later.tag depth (c :: soFar))
  code depth soFar clean := by
    rw [sourceOf_cons, Piece.source, List.singleton_append, replaceFrom]
    split
    · rename_i colon
      subst colon
      split
      · rename_i url shown
        have known : map.get? soFar.reverse = some url := by
          split at shown
          · exact shown
          · exact absurd shown (by simp)
        have closed := Shown.code (by simpa using clean) known (later.text depth)
        simpa using closed
      · exact (later.code depth [] (by simp)).chars (':' :: soFar.reverse)
    · rename_i other
      split
      · exact (Shown.char (later.tag depth [c])).chars (':' :: soFar.reverse)
      · have clean' : ':' ∉ c :: soFar := List.not_mem_cons_of_ne_of_not_mem (Ne.symm other) clean
        simpa using later.code depth (c :: soFar) clean'

theorem piece (later : ShowsOn map parts) {tag : Tag} (written : tag.IsWritten)
    (covered : ¬ tag.ExposesCode (sourceOf parts)) : ShowsOn map (.tag tag :: parts) := by
  obtain ⟨inner, source⟩ := written.eq_cons
  have copied (depth : Nat) : Shown map (.tag tag :: parts)
      ('<' :: replaceFrom map depth (.tag ['<']) (inner ++ sourceOf parts)) := by
    have whole : tag.source = ['<'] ++ inner := source
    obtain ⟨depth', reading, reads, (same : replaceFrom map _ _ _ = _)⟩ :=
      replaceFrom_tagRest covered whole (.tag ['<']) trivial depth
    rw [same, ← List.cons_append, ← source]
    cases reading with
    | text => exact .tag (later.text depth')
    | tag soFar => exact .tag (later.tag depth' soFar)
    | code _ => exact reads.elim
  constructor
  · intro depth
    simpa [Piece.source, source, replaceFrom] using copied depth
  · intro depth soFar
    simpa [Piece.source, source, replaceFrom] using copied depth
  · intro depth soFar _
    have shown := (copied depth).chars (':' :: soFar.reverse)
    simpa [Piece.source, source, replaceFrom] using shown

end ShowsOn

/-- Shortcodes are replaced only between tags, and every tag is copied, if no tag exposes a
shortcode. -/
theorem replace_shown (map : EmojiImages) (markup : List Char)
    (covered : ∀ before tag after, pieces markup = before ++ .tag tag :: after →
      ¬ tag.ExposesCode (sourceOf after)) : Shown map (pieces markup) (replace map markup) := by
  have shows (parts before : List Piece) (whole : pieces markup = before ++ parts) :
      ShowsOn map parts := by
    induction parts generalizing before with
    | nil => exact .nil
    | cons part rest ih =>
      have later := ih (before ++ [part]) (by simp [whole])
      cases part with
      | char c => exact later.char c
      | tag tag =>
        have member : .tag tag ∈ pieces markup := by simp [whole]
        exact later.piece (isWritten_of_mem_pieces member) (covered before tag rest whole)
  unfold replace
  split
  · have copied : ∀ parts, Shown map parts (sourceOf parts) := by
      intro parts
      induction parts with
      | nil => exact .nil
      | cons part rest ih =>
        cases part with
        | char c => exact .char ih
        | tag tag => exact .tag ih
    simpa [source_pieces] using copied (pieces markup)
  · have shown := (shows (pieces markup) [] rfl).text 0
    rwa [source_pieces] at shown

/-- A tag stands unchanged at the start of what shows it. -/
theorem Shown.isStart_tag {tag : Tag} {out : List Char} (shown : Shown map (.tag tag :: parts) out) :
    tag.source <+: out := by
  generalize whole : (.tag tag :: parts) = pieces at shown
  cases shown with
  | nil => cases whole
  | tag => cases whole; exact List.prefix_append ..
  | char => cases whole
  | code => cases whole

/-- The opening tag of a link with a title in which `>` stands before some text. -/
def titled (text : List Char) : Tag :=
  ⟨"a".toList, false, false, "<a title=\"x>".toList ++ text ++ "\">".toList⟩

/-- A title without a colon exposes no shortcode. -/
theorem replace_shown_titled :
    let map : EmojiImages := ⟨[("b".toList, "u".toList)]⟩
    let markup := (titled "y".toList).source ++ ":b:</a>".toList
    (∀ before tag after, pieces markup = before ++ .tag tag :: after →
        ¬ tag.ExposesCode (sourceOf after)) ∧ Shown map (pieces markup) (replace map markup) := by
  intro map markup
  have covered : ∀ before tag after, pieces markup = before ++ .tag tag :: after →
      ¬ tag.ExposesCode (sourceOf after) := by
    have cut : pieces markup = [.tag (titled "y".toList), .char ':', .char 'b', .char ':',
        .tag ⟨"a".toList, true, false, "</a>".toList⟩] := by
      have first : (titled "y".toList).IsWritten := by unfold Tag.IsWritten; decide
      have last : (⟨"a".toList, true, false, "</a>".toList⟩ : Tag).IsWritten := by
        unfold Tag.IsWritten; decide
      have rest : pieces (':' :: 'b' :: ':' :: "</a>".toList) =
          [.char ':', .char 'b', .char ':', .tag ⟨"a".toList, true, false, "</a>".toList⟩] := by
        rw [pieces_of_ne (by decide), pieces_of_ne (by decide), pieces_of_ne (by decide)]
        simpa using pieces_of_isWritten last []
      rw [pieces_of_isWritten first]
      exact congrArg _ rest
    rintro before tag after whole ⟨front, back, _, _, source, _⟩
    have clean : ∀ piece ∈ pieces markup, ∀ tag, piece = .tag tag → ':' ∉ tag.source := by
      rw [cut]
      simp only [List.forall_mem_cons]
      refine ⟨?_, by simp, by simp, by simp, ?_, by simp⟩
      · rintro _ ⟨⟩
        decide
      · rintro _ ⟨⟩
        decide
    refine clean (.tag tag) (by simp [whole]) tag rfl ?_
    simp [source]
  exact ⟨covered, replace_shown map markup covered⟩

/-- A shortcode after a `>` in the title of a link is replaced. -/
theorem not_shown_titled :
    let map : EmojiImages := ⟨[("b".toList, "u".toList)]⟩
    let markup := (titled ":b:".toList).source ++ "y</a>".toList
    ¬ Shown map (pieces markup) (replace map markup) := by
  intro map markup shown
  have written : (titled ":b:".toList).IsWritten := by unfold Tag.IsWritten; decide
  rw [pieces_of_isWritten written] at shown
  have kept := shown.isStart_tag
  revert kept
  decide

end Emoji

end PostMarkup
