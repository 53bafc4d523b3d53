import PostMarkup.Emoji
import PostMarkup.Proofs.Renderer.Flow

/-! # Emoji in markup

The reader of shortcodes copies every tag as a whole, and what it writes for a shortcode is the tag
of a void inline element. So markup stays a fragment when its shortcodes are replaced.
-/

namespace PostMarkup.Emoji

open PostMarkup.Text PostMarkup.Attribute PostMarkup.Markdown

variable {model : ContentModel} {map : EmojiImages} {base opened final outer : List (List Char)} {parts : List Piece}

def imageAttributes (shortcode url : List Char) : List Attribute :=
  [.escaped "draggable" "false".toList, .escaped "class" "emojione".toList,
    .escaped "alt" (':' :: shortcode ++ [':']), .escaped "title" (':' :: shortcode ++ [':']),
    .escaped "src" url]

theorem image_eq (shortcode url : List Char) :
    image shortcode url = (Tag.single imageName (imageAttributes shortcode url)).source := by
  have draggable : escapeAttribute "false".toList = "false".toList := by decide
  have cls : escapeAttribute "emojione".toList = "emojione".toList := by decide
  have colon : escapeAttributeChar ':' = [':'] := by decide
  unfold image imageAttributes Tag.single Tag.start
  simp only [Attribute.escaped, draggable, cls, escapeAttribute_cons, List.cons_append,
    escapeAttribute_append, escapeAttribute_nil, colon]
  simp [imageName, Attribute.source]

theorem imageAttributes_isClean (shortcode url : List Char) :
    ∀ entry ∈ imageAttributes shortcode url, entry.IsClean := by
  simp only [imageAttributes, List.forall_mem_cons]
  exact ⟨escaped_isClean (by decide) _, escaped_isClean (by decide) _, escaped_isClean (by decide) _,
    escaped_isClean (by decide) _, escaped_isClean (by decide) _, by simp⟩

/-- An image is read as one tag. -/
theorem pieces_image (shortcode url text : List Char) : pieces (image shortcode url ++ text) =
    .tag (.single imageName (imageAttributes shortcode url)) :: pieces text := by
  rw [image_eq]
  exact pieces_of_isWritten (Tag.single_isWritten (by decide) (imageAttributes_isClean shortcode url)) text

/-- A tag is copied as a whole. -/
theorem replaceFrom_inside {inner : List Char} (clean : '<' ∉ inner ∧ '>' ∉ inner) (depth : Nat)
    (soFar rest : List Char) : replaceFrom map depth (.tag soFar) (inner ++ '>' :: rest) =
      inner ++ '>' :: replaceFrom map (depthAfter depth ('>' :: (inner.reverse ++ soFar))) .text rest := by
  induction inner generalizing soFar with
  | nil => simp [replaceFrom]
  | cons c others ih =>
    simp only [List.mem_cons, not_or] at clean
    obtain ⟨⟨less, less'⟩, greater, greater'⟩ := clean
    rw [List.cons_append, replaceFrom, if_neg (Ne.symm greater), if_neg (Ne.symm less), ih ⟨less', greater'⟩]
    simp

theorem replaceFrom_tag (map : EmojiImages) {tag : Tag} (compact : tag.IsCompact) (depth : Nat) (rest : List Char) :
    replaceFrom map depth .text (tag.source ++ rest) =
        tag.source ++ replaceFrom map (depthAfter depth tag.source.reverse) .text rest ∧
      ∀ soFar, replaceFrom map depth (.code soFar) (tag.source ++ rest) =
        ':' :: soFar.reverse ++ (tag.source ++ replaceFrom map (depthAfter depth tag.source.reverse) .text rest) := by
  obtain ⟨inner, source, clean⟩ := compact
  have reversed : tag.source.reverse = '>' :: (inner.reverse ++ ['<']) := by simp [source]
  rw [reversed]
  constructor
  · rw [source, List.cons_append, List.append_assoc, List.singleton_append, replaceFrom, if_pos rfl,
      replaceFrom_inside clean]
    simp
  · intro soFar
    have colon : ('<' : Char) ≠ ':' := by decide
    rw [source, List.cons_append, List.append_assoc, List.singleton_append, replaceFrom,
      if_neg colon, if_pos rfl, replaceFrom_inside clean]
    simp

/-- A tag after text ends what is pending, as the end of a text does. -/
theorem replaceFrom_append {tag : Tag} {text : List Char} (clean : '<' ∉ text) (compact : tag.IsCompact) (depth : Nat) :
    replaceFrom map depth .text (text ++ tag.source) = replaceFrom map depth .text text ++ tag.source ∧
      ∀ soFar, replaceFrom map depth (.code soFar) (text ++ tag.source) =
        replaceFrom map depth (.code soFar) text ++ tag.source := by
  induction text with
  | nil =>
    obtain ⟨outside, pending⟩ := replaceFrom_tag map compact depth []
    simp only [List.append_nil] at outside pending
    constructor
    · simp [outside, replaceFrom, Reading.pending]
    · simp [pending, replaceFrom, Reading.pending]
  | cons c rest ih =>
    simp only [List.mem_cons, not_or] at clean
    have differs : c ≠ '<' := Ne.symm clean.1
    obtain ⟨outside, pending⟩ := ih clean.2
    constructor
    · simp only [List.cons_append, replaceFrom, if_neg differs, outside, pending]
      split
      · rfl
      · rfl
    · intro soFar
      simp only [List.cons_append, replaceFrom, if_neg differs, outside, pending]
      split
      · split
        · rw [List.append_assoc]
        · simp
      · rfl

/-- Text between two tags is replaced as if it stood alone, unless the first of them hides it. -/
theorem replace_between {first last : Tag} {text : List Char} (compact : first.IsCompact) (compact' : last.IsCompact)
    (visible : first.source ≠ hiddenRegionTag) (clean : '<' ∉ text) :
    replace map (first.source ++ (text ++ last.source)) = first.source ++ (replace map text ++ last.source) := by
  have shallow : depthAfter 0 first.source.reverse = 0 := by simp [depthAfter, visible]
  unfold replace
  split
  · rfl
  · rw [(replaceFrom_tag map compact 0 _).1, shallow, (replaceFrom_append clean compact' 0).1]

/-- Whether a model has compact tags and permits the images of a map wherever it permits their shortcodes. -/
structure Admits (model : ContentModel) (map : EmojiImages) : Prop where
  compact : ∀ outer tag, model.tag outer tag → tag.IsCompact
  image : ∀ outer shortcode url, model.char outer ':' → (∀ c ∈ shortcode, model.char outer c) →
    map.get? shortcode = some url → Fragment model outer (image shortcode url)

theorem leads_of_chars {text : List Char} (clean : ∀ c ∈ text, c ≠ '<' ∧ model.char (opened ++ base) c) :
    Leads model base opened text opened :=
  .of_fragment (.of_chars clean)

/-- A colon and what stands after it. -/
theorem leads_pending {soFar : List Char} (colon : model.char (opened ++ base) ':')
    (clean : ∀ c ∈ soFar, c ≠ '<' ∧ model.char (opened ++ base) c) :
    Leads model base opened (':' :: soFar.reverse) opened := by
  apply leads_of_chars
  intro c member
  rcases List.mem_cons.mp member with rfl | member
  · exact ⟨by decide, colon⟩
  · exact clean c (List.mem_reverse.mp member)

/-- Whether what the reader writes for the rest of some markup leads to some open elements, in text
or after an open colon. -/
def LeadsOn (model : ContentModel) (map : EmojiImages) (base opened : List (List Char)) (depth : Nat)
    (rest : List Char) (final : List (List Char)) : Prop :=
  Leads model base opened (replaceFrom map depth .text rest) final ∧
    ∀ soFar, model.char (opened ++ base) ':' → (∀ c ∈ soFar, c ≠ '<' ∧ model.char (opened ++ base) c) →
      Leads model base opened (replaceFrom map depth (.code soFar) rest) final

theorem LeadsOn.tag {tag : Tag} {middle : List (List Char)} {rest : List Piece}
    (compact : tag.IsCompact) (own : Leads model base opened tag.source middle)
    (later : ∀ depth, LeadsOn model map base middle depth (sourceOf rest) final) (depth : Nat) :
    LeadsOn model map base opened depth (sourceOf (.tag tag :: rest)) final := by
  obtain ⟨text, code⟩ := replaceFrom_tag map compact depth (sourceOf rest)
  constructor
  · rw [sourceOf_cons, Piece.source, text]
    exact own.append (later _).1
  · intro soFar colon clean
    rw [sourceOf_cons, Piece.source, code]
    exact (leads_pending colon clean).append (own.append (later _).1)

theorem LeadsOn.char {c : Char} {rest : List Piece} (admits : Admits model map) (differs : c ≠ '<')
    (permitted : model.char (opened ++ base) c)
    (later : ∀ depth, LeadsOn model map base opened depth (sourceOf rest) final) (depth : Nat) :
    LeadsOn model map base opened depth (sourceOf (.char c :: rest)) final := by
  have none : ∀ d ∈ ([] : List Char), d ≠ '<' ∧ model.char (opened ++ base) d := by simp
  have own : Leads model base opened [c] opened :=
    leads_of_chars (List.forall_mem_singleton.mpr ⟨differs, permitted⟩)
  rw [sourceOf_cons, Piece.source, List.singleton_append]
  constructor
  · rw [replaceFrom, if_neg differs]
    split
    · rename_i same
      exact (later depth).2 [] (same ▸ permitted) none
    · exact own.append (later depth).1
  · intro soFar colon clean
    rw [replaceFrom]
    split
    · split
      · rename_i url shown
        have found : map.get? soFar.reverse = some url := by
          split at shown
          · exact shown
          · exact absurd shown (by simp)
        have code : ∀ c ∈ soFar.reverse, model.char (opened ++ base) c := fun c member =>
          (clean c (List.mem_reverse.mp member)).2
        exact (Leads.of_fragment (admits.image _ _ _ colon code found)).append (later depth).1
      · exact (leads_pending colon clean).append ((later depth).2 [] colon none)
    · apply (later depth).2 _ colon
      exact List.forall_mem_cons.mpr ⟨⟨differs, permitted⟩, clean⟩

/-- Wherever the reader stands outside tags, the rest of the markup leads on as before, after what
is pending. -/
theorem leadsOn (admits : Admits model map) (walk : Walk model base opened parts final) (depth : Nat) :
    LeadsOn model map base opened depth (sourceOf parts) final := by
  induction walk generalizing depth with
  | stop =>
    constructor
    · simpa [replaceFrom, Reading.pending] using Leads.nil
    · intro soFar colon clean
      simpa [replaceFrom, Reading.pending] using leads_pending colon clean
  | char differs permitted _ ih => exact .char admits differs permitted ih depth
  | void written void permitted _ ih =>
    exact .tag (admits.compact _ _ permitted) (.of_fragment (.void written void permitted)) ih depth
  | enter written opens permitted _ ih =>
    exact .tag (admits.compact _ _ permitted) (.enter written opens permitted) ih depth
  | leave written closes permitted _ ih =>
    exact .tag (admits.compact _ _ permitted) (.leave written closes permitted) ih depth

/-- Replacing shortcodes leaves a fragment. -/
theorem fragment_replace (admits : Admits model map) {markup : List Char}
    (fragment : Fragment model outer markup) : Fragment model outer (replace map markup) := by
  unfold replace
  split
  · exact fragment
  · have walk : Walk model outer [] (pieces markup) [] := nested_iff_walk.mp fragment
    have replaced := (leadsOn admits walk 0).1
    rw [source_pieces] at replaced
    exact fragment_iff_leads.mpr replaced

/-- Whether the shortcodes of a map and their images stand on one line. -/
def OnLines (map : EmojiImages) : Prop :=
  ∀ shortcode url, map.get? shortcode = some url → '\n' ∉ shortcode ∧ '\n' ∉ url

theorem ordinary_imageAttributes {shortcode url : List Char} (line : '\n' ∉ shortcode) (line' : '\n' ∉ url) :
    Attribute.Ordinary (imageAttributes shortcode url) := by
  have code : '\n' ∉ ':' :: shortcode ++ [':'] := by
    simp [line]
  apply ordinary_cons (by decide) (by decide) (by decide)
  apply ordinary_cons (by decide) (by decide) (by decide)
  apply ordinary_cons (by decide) (by decide) code
  apply ordinary_cons (by decide) (by decide) code
  exact ordinary_cons (by decide) (by decide) line' ordinary_nil

theorem OnLines.admits (lines : OnLines map) : Admits postModel map where
  compact _ _ permitted := permitted.1.compact
  image outer shortcode url _ _ found := by
    obtain ⟨line, line'⟩ := lines shortcode url found
    rw [image_eq]
    exact .inlineVoid (by decide) (by decide) (by decide) (ordinary_imageAttributes line line') (by decide)

/-- The image of a shortcode is one of the two of an emoji with this shortcode. -/
theorem exists_of_get?_ofEmojis {animate : Bool} {emojis : List CustomEmoji} {shortcode url : List Char}
    (found : (EmojiImages.ofEmojis animate emojis).get? shortcode = some url) :
    ∃ emoji ∈ emojis, emoji.shortcode = shortcode ∧ (url = emoji.url ∨ url = emoji.stillUrl) := by
  obtain ⟨⟨code, image⟩, member, rfl⟩ := Option.map_eq_some_iff.mp found
  have same : code = shortcode := by simpa using List.find?_some member
  have inside := List.mem_of_find?_eq_some member
  rw [List.mem_reverse] at inside
  obtain ⟨emoji, listed, shown⟩ := List.mem_map.mp inside
  cases shown
  refine ⟨emoji, listed, same, ?_⟩
  cases animate
  · exact .inr rfl
  · exact .inl rfl

theorem onLines_ofEmojis {emojis : List CustomEmoji} (animate : Bool)
    (lines : ∀ emoji ∈ emojis, '\n' ∉ emoji.shortcode ∧ '\n' ∉ emoji.url ∧ '\n' ∉ emoji.stillUrl) :
    OnLines (.ofEmojis animate emojis) := by
  intro shortcode url found
  obtain ⟨emoji, listed, rfl, image⟩ := exists_of_get?_ofEmojis found
  obtain ⟨line, moving, still⟩ := lines emoji listed
  refine ⟨line, ?_⟩
  rcases image with rfl | rfl
  · exact moving
  · exact still

end PostMarkup.Emoji
