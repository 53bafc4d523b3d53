import PostMarkup.Proofs.LinkTarget.Held
import PostMarkup.Proofs.Markdown.Rendered

/-! # Encoding and decoding a rendered document

Decoding what was encoded restores a rendered document without its markers, unless the title of a
link ends like the start of an address. Then the text after the title is taken for an address, the
marker in it is not found again, and the tag stays encoded.
-/

namespace PostMarkup.LinkTarget

open PostMarkup.Text PostMarkup.Markdown

/-- A text without the last occurrence of a word. -/
def withoutLast (word : List Char) : List Char → List Char
  | [] => []
  | c :: rest =>
    if occursIn word rest then c :: withoutLast word rest
    else if word.isPrefixOf (c :: rest) then (c :: rest).drop word.length
    else c :: rest

/-- The characters of a tag, without the marker if it is a link or an image. -/
def withoutMarker (tag : Tag) : List Char :=
  if tag.name = linkName ∨ tag.name = imageName then withoutLast (' ' :: marker) tag.source
  else tag.source

/-- Markup with the marker removed from each of its links and images. -/
def withoutMarkers (markup : List Char) : List Char :=
  sourceOf ((pieces markup).map (Piece.rewrite withoutMarker))

theorem withoutLast_of_last {c : Char} {word after : List Char}
    (last : occursIn (c :: word) (word ++ after) = false) (before : List Char) :
    withoutLast (c :: word) (before ++ (c :: word ++ after)) = before ++ after := by
  induction before with
  | nil =>
    have start : (c :: word).isPrefixOf (c :: (word ++ after)) = true :=
      List.isPrefixOf_iff_prefix.mpr ⟨after, rfl⟩
    simp [withoutLast, last, start]
  | cons d rest ih => rw [List.cons_append, withoutLast, if_pos (occursIn_append rest after), ih]; rfl

/-- A rendered link without its marker. -/
theorem withoutMarker_link (target : Target) :
    withoutMarker (target.linkTag [mark]) = (target.linkTag []).source := by
  have named : (target.linkTag [mark]).name = linkName := rfl
  have last : occursIn (' ' :: marker) (marker ++ (" target=".toList ++ linkEnd)) = false := by decide
  have shape : linkText target (escapeAttribute target.url) markedMiddle =
      '<' :: (linkName ++ Attribute.written (linkLead target (escapeAttribute target.url))) ++
        (' ' :: marker ++ (" target=".toList ++ linkEnd)) := by
    rw [linkText_eq]
    unfold markedMiddle
    simp
  rw [withoutMarker, if_pos (.inl named), (linkTag_source target).1, shape, withoutLast_of_last last,
    (linkTag_source target).2, linkText_eq]
  simp

/-- A rendered image without its marker. -/
theorem withoutMarker_image (target : Target) :
    withoutMarker (target.imageTag [mark]) = (target.imageTag []).source := by
  have named : (target.imageTag [mark]).name = imageName := rfl
  have last : occursIn (' ' :: marker) (marker ++ " />".toList) = false := by decide
  have shape (others : List Attribute) : (target.imageTag others).source =
      '<' :: (imageName ++ Attribute.written (target.imageAttributes [])) ++
        (Attribute.written others ++ " />".toList) := by
    unfold Target.imageTag Tag.single Tag.start Target.imageAttributes
    simp
  have marked := shape [mark]
  have plain := shape []
  rw [show Attribute.written [mark] ++ " />".toList = ' ' :: marker ++ " />".toList from rfl] at marked
  rw [withoutMarker, if_pos (.inr named), marked, withoutLast_of_last last, plain]
  rfl

/-- A tag that is neither a link nor an image carries no marker. -/
theorem decodeTag_of_not_marked {tag : Tag} (plain : isMarked tag.source = false) :
    heldSource tag = tag.source ∧ decodeTag (heldSource tag) = .ok tag.source := by
  have held : heldSource tag = tag.source := by rw [heldSource, plain, if_neg Bool.false_ne_true]
  rw [held, decodeTag, plain, if_neg Bool.false_ne_true]
  exact ⟨rfl, rfl⟩

theorem isMarked_opening {name : List Char} {attributes : List Attribute}
    (named : Tag.isName name = true)
    (others : ∀ entry ∈ attributes, entry.IsClean ∧ entry.name ≠ marker) :
    isMarked (Tag.opening name attributes).source = false ∧
      isMarked (Tag.single name attributes).source = false :=
  ⟨Tag.opening_eq name attributes ▸ isMarked_ended named others (by decide), isMarked_ended named others (by decide)⟩

/-- A rendered tag is a link, an image, or a tag without a marker. -/
theorem marker_of_rendered {tag : Tag} (rendered : RenderedTag tag) :
    (isMarked tag.source = false ∧ withoutMarker tag = tag.source) ∨
      (∃ target : Target, target.Sound ∧ tag = target.linkTag [mark]) ∨
        ∃ target : Target, target.Sound ∧ tag = target.imageTag [mark] := by
  have known : ∀ name ∈ elementNames, name ≠ linkName ∧ name ≠ imageName := by decide
  cases rendered with
  | @opening name member =>
    have named := isName_of_mem_elementNames name (List.mem_cons_of_mem _ member)
    exact .inl ⟨(isMarked_opening named (by simp)).1, if_neg (not_or.mpr (known name member))⟩
  | @stop name member =>
    have same : ∀ name ∈ linkName :: elementNames,
        withoutMarker (.stop name) = (Tag.stop name).source := by decide
    exact .inl ⟨isMarked_stop (isName_of_mem_elementNames name member), same name member⟩
  | @single name member =>
    have void : ∀ name ∈ ["br".toList, "hr".toList],
        isMarked (Tag.single name []).source = false ∧
          withoutMarker (.single name []) = (Tag.single name []).source := by decide
    exact .inl (void name member)
  | @code word line =>
    have clean := Attribute.escaped_isClean (by decide : Attribute.isName "class".toList = true)
      ("language-".toList ++ word)
    have others : ∀ entry ∈ [.escaped "class" ("language-".toList ++ word)],
        Attribute.IsClean entry ∧ entry.name ≠ marker :=
      List.forall_mem_singleton.mpr ⟨clean, (by decide : "class".toList ≠ marker)⟩
    exact .inl ⟨(isMarked_opening (by decide) others).1,
      if_neg (not_or.mpr (known "code".toList (by decide)))⟩
  | link sound => exact .inr (.inl ⟨_, sound, rfl⟩)
  | image sound => exact .inr (.inr ⟨_, sound, rfl⟩)

/-- A tag of a rendered document is restored without its marker if it is no link whose title
misleads, and otherwise it stays as it is held. -/
theorem decodeTag_of_rendered {tag : Tag} (rendered : RenderedTag tag) :
    decodeTag (heldSource tag) = .ok (withoutMarker tag) ∨
      ∃ target, tag = target.linkTag [mark] ∧ misleads target = true ∧
        decodeTag (heldSource tag) = .ok (heldSource tag) := by
  rcases marker_of_rendered rendered with ⟨plain, same⟩ | ⟨target, _, rfl⟩ | ⟨target, _, rfl⟩
  · exact .inl (same ▸ (decodeTag_of_not_marked plain).2)
  · cases misleading : misleads target with
    | false =>
      refine .inl ?_
      rw [decodeTag_link misleading, withoutMarker_link]
    | true => exact .inr ⟨target, rfl, misleading, decodeTag_misleading misleading⟩
  · refine .inl ?_
    rw [decodeTag_image, withoutMarker_image]

/-- A tag stays compact while it is held. -/
theorem held_isCompact {tag : Tag} (rendered : RenderedTag tag) :
    Tag.IsCompact { tag with source := heldSource tag } := by
  rcases marker_of_rendered rendered with ⟨plain, same⟩ | ⟨target, _, rfl⟩ | ⟨target, _, rfl⟩
  · rw [(decodeTag_of_not_marked plain).1]
    exact rendered.isPlain.isCompact
  · have clean := clean_encode target.url
    unfold Tag.IsCompact
    rw [heldSource_link]
    refine linkText_isCompact clean ?_
    split
    · exact (clean_encode markedMiddle).2
    · decide
  · have clean := clean_encode target.url
    unfold Tag.IsCompact
    rw [heldSource_image]
    refine imageText_isCompact clean ?_
    split
    · exact (clean_encode titleMiddle).2
    · decide

/-- What a tag becomes when it is held and decoded. -/
def restoredSource (tag : Tag) : List Char := (decodeTag (heldSource tag)).toOption.getD []

theorem restoredSource_of_ok {tag : Tag} {restored : List Char}
    (decoded : decodeTag (heldSource tag) = .ok restored) : restoredSource tag = restored := by
  rw [restoredSource, decoded]
  rfl

theorem decodeTag_restored {tag : Tag} (rendered : RenderedTag tag) :
    decodeTag (heldSource tag) = .ok (restoredSource tag) := by
  rcases decodeTag_of_rendered rendered with decoded | ⟨_, _, _, decoded⟩
  · rw [decoded, restoredSource_of_ok decoded]
  · rw [decoded, restoredSource_of_ok decoded]

/-- The tags of rendered markup are rendered tags. -/
theorem rendered_of_mem {outer : List (List Char)} {markup : List Char} {tag : Tag}
    (fragment : RenderedFragment outer markup) (member : .tag tag ∈ pieces markup) :
    RenderedTag tag := by
  obtain ⟨around, permitted⟩ := Nested.exists_permitted fragment.nested member
  exact permitted.1

/-- Rendered markup is encoded one tag at a time. -/
theorem encode_rendered {outer : List (List Char)} {markup : List Char}
    (fragment : RenderedFragment outer markup) :
    encode markup = sourceOf ((pieces markup).map (Piece.rewrite heldSource)) := by
  have compact : ∀ part ∈ pieces markup, part.IsCompact :=
    fragment.nested.isCompact fun _ _ permitted => permitted.1.isPlain.isCompact
  rw [← encode_sourceOf compact, source_pieces]

/-- Encoding and decoding rendered markup never fails, and each tag is held and decoded on its
own. -/
theorem decode_encode_rendered {outer : List (List Char)} {markup : List Char}
    (fragment : RenderedFragment outer markup) : decode (encode markup) =
      .ok (sourceOf ((pieces markup).map (Piece.rewrite restoredSource))) := by
  have compact : ∀ part ∈ (pieces markup).map (Piece.rewrite heldSource), part.IsCompact := by
    intro part member
    obtain ⟨before, inside, rfl⟩ := List.mem_map.mp member
    cases before with
    | tag tag => exact held_isCompact (rendered_of_mem fragment inside)
    | char c => exact Nested.isWritten fragment.nested _ inside
  have each : ∀ tag, .tag tag ∈ (pieces markup).map (Piece.rewrite heldSource) →
      decodeTag tag.source = .ok ((decodeTag tag.source).toOption.getD []) := by
    intro tag member
    obtain ⟨before, inside, same⟩ := List.mem_map.mp member
    cases before with
    | tag original =>
      obtain rfl := Piece.tag.inj same
      exact decodeTag_restored (rendered_of_mem fragment inside)
    | char c => simp [Piece.rewrite] at same
  rw [encode_rendered fragment, decode_sourceOf compact _ each, List.map_map]
  congr 2
  refine List.map_congr_left fun part _ => ?_
  cases part <;> rfl

theorem count_linkText (target : Target) (address middle : List Char) :
    (linkText target address middle).count ' ' =
      address.count ' ' + middle.count ' ' + (linkText target [] []).count ' ' := by
  rw [linkText_eq, linkText_eq]
  simp only [linkLead, Attribute.written_cons, Attribute.source, List.count_append, List.count_cons,
    List.count_nil]
  omega

/-- A link whose title misleads keeps its text encoded, which has fewer spaces. -/
theorem count_of_misleading {target : Target} (misleading : misleads target = true) :
    (restoredSource (target.linkTag [mark])).count ' ' <
      (withoutMarker (target.linkTag [mark])).count ' ' := by
  have solid (text : List Char) : (Percent.encode text).count ' ' = 0 :=
    List.count_eq_zero.mpr (Percent.not_mem_encode (by decide) (by decide))
  have space : " target=".toList.count ' ' = 1 := by decide
  rw [restoredSource_of_ok (decodeTag_misleading misleading), heldSource_link, if_pos misleading,
    withoutMarker_link, (linkTag_source target).2,
    count_linkText target (Percent.encode target.url) (Percent.encode markedMiddle),
    count_linkText target (escapeAttribute target.url) " target=".toList, solid, solid, space]
  omega

theorem count_restoredSource_le {tag : Tag} (rendered : RenderedTag tag) :
    (restoredSource tag).count ' ' ≤ (withoutMarker tag).count ' ' := by
  rcases decodeTag_of_rendered rendered with decoded | ⟨target, rfl, misleading, _⟩
  · exact Nat.le_of_eq (by rw [restoredSource_of_ok decoded])
  · exact Nat.le_of_lt (count_of_misleading misleading)

variable {parts : List Piece} {left right : Tag → List Char}

theorem count_rewrite_le
    (fewer : ∀ tag, .tag tag ∈ parts → (left tag).count ' ' ≤ (right tag).count ' ') :
    (sourceOf (parts.map (Piece.rewrite left))).count ' ' ≤
      (sourceOf (parts.map (Piece.rewrite right))).count ' ' := by
  induction parts with
  | nil => exact Nat.le_refl _
  | cons part rest ih =>
    have further := ih fun tag member => fewer tag (List.mem_cons_of_mem _ member)
    simp only [List.map_cons, sourceOf_cons, List.count_append]
    refine Nat.add_le_add ?_ further
    cases part with
    | tag tag => exact fewer tag (List.mem_cons_self ..)
    | char c => exact Nat.le_refl _

theorem count_rewrite_lt
    (fewer : ∀ tag, .tag tag ∈ parts → (left tag).count ' ' ≤ (right tag).count ' ') {tag : Tag}
    (member : .tag tag ∈ parts) (fewer' : (left tag).count ' ' < (right tag).count ' ') :
    (sourceOf (parts.map (Piece.rewrite left))).count ' ' <
      (sourceOf (parts.map (Piece.rewrite right))).count ' ' := by
  obtain ⟨before, after, rfl⟩ := List.append_of_mem member
  simp only [List.mem_append, List.mem_cons] at fewer
  have first := count_rewrite_le fun tag inside => fewer tag (.inl inside)
  have later := count_rewrite_le fun tag inside => fewer tag (.inr (.inr inside))
  simp only [List.map_append, List.map_cons, sourceOf_append, sourceOf_cons, List.count_append,
    Piece.rewrite, Piece.source]
  omega

theorem sourceOf_restored_eq_iff (rendered : ∀ tag, .tag tag ∈ parts → RenderedTag tag) :
    sourceOf (parts.map (Piece.rewrite restoredSource)) =
      sourceOf (parts.map (Piece.rewrite withoutMarker)) ↔
        ∀ target : Target, .tag (target.linkTag [mark]) ∈ parts → misleads target = false := by
  constructor
  · intro same target member
    rw [Bool.eq_false_iff]
    intro misleading
    have fewer := count_rewrite_lt (fun tag inside => count_restoredSource_le (rendered tag inside))
      member (count_of_misleading misleading)
    rw [same] at fewer
    exact Nat.lt_irrefl _ fewer
  · intro clear
    congr 1
    apply List.map_congr_left
    intro part member
    cases part with
    | char c => rfl
    | tag tag =>
      rcases decodeTag_of_rendered (rendered tag member) with decoded | ⟨target, rfl, misleading, _⟩
      · simp only [Piece.rewrite, restoredSource_of_ok decoded]
      · simp [clear target member] at misleading

/-- Decoding what was encoded gives a rendered document back without its markers exactly when no
title of a link in it ends in a blank and then `href=` or `src=`. -/
theorem decode_encode_render_eq_iff (text : List Char) :
    decode (encode (render text)) = .ok (withoutMarkers (render text)) ↔
      ∀ target : Target, .tag (target.linkTag [mark]) ∈ pieces (render text) →
        misleads target = false := by
  have fragment := rendered_render text
  rw [decode_encode_rendered fragment, Except.ok.injEq, withoutMarkers]
  exact sourceOf_restored_eq_iff fun tag member => rendered_of_mem fragment member

/-- A link whose title ends in a space and then `href=` is not restored. -/
theorem decode_encode_render_ne :
    decode (encode (render "[x](https://a.b \" href=\")".toList)) ≠
      .ok (withoutMarkers (render "[x](https://a.b \" href=\")".toList)) := by
  let target : Target := ⟨"https://a.b".toList, "x".toList, some " href=".toList⟩
  have misleading : misleads target = true := by decide
  have shape : render "[x](https://a.b \" href=\")".toList = (target.linkTag [mark]).source ++
      (escapeText target.label ++ (Tag.stop linkName).source) := by
    decide +kernel
  have fragment := rendered_render "[x](https://a.b \" href=\")".toList
  have member : .tag (target.linkTag [mark]) ∈
      pieces (render "[x](https://a.b \" href=\")".toList) := by
    have written : (target.linkTag [mark]).IsWritten :=
      Tag.start_isWritten (by decide) (by decide) (by decide)
    rw [shape, pieces_of_isWritten written]
    exact List.mem_cons_self
  rw [decode_encode_rendered fragment, withoutMarkers, Ne, Except.ok.injEq,
    sourceOf_restored_eq_iff fun tag inside => rendered_of_mem fragment inside]
  intro clear
  simp [clear target member] at misleading

end PostMarkup.LinkTarget
