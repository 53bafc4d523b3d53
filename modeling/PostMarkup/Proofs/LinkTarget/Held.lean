import PostMarkup.Proofs.LinkTarget.Address
import PostMarkup.Proofs.LinkTarget.Marker
import PostMarkup.Proofs.LinkTarget.Stretch
import PostMarkup.Proofs.Markdown.RenderedTag
import PostMarkup.Proofs.Percent

/-! # Links and images whose targets are held

Encoding replaces the address of a link or an image. When the text before some other quote ends like
the start of an address, the text after that quote is replaced too. In an image this is undone when
the tag is decoded. In a link whose title ends so, the text with the marker is what is replaced, and
the tag is never decoded.
-/

namespace PostMarkup.LinkTarget

open PostMarkup.Text PostMarkup.Markdown

/-- Whether the title of a target ends like the start of an address. -/
def misleads (target : Target) : Bool := target.title.any opensAddress

/-- The opening tag of a link with its address as it is written, and the text between its title
and the value of the attribute `target`. -/
def linkText (target : Target) (address middle : List Char) : List Char :=
  "<a href=\"".toList ++ address ++ '"' ::
    (Attribute.written (target.title.toList.map (.escaped "title")) ++ (middle ++ '"' ::
      ("_blank".toList ++ '"' :: ((Attribute.escaped "rel" linkRelation).source ++ ['>']))))

/-- The tag of an image with its address as it is written, and the text between its label and its
title. -/
def imageText (target : Target) (address middle : List Char) : List Char :=
  "<img src=\"".toList ++ address ++ '"' :: (" alt=\"".toList ++ escapeAttribute target.label ++ '"' ::
    (middle ++ '"' :: (escapeAttribute (target.title.getD target.label) ++ '"' ::
      (' ' :: marker ++ " />".toList))))

/-- The text between a title and the value of the attribute `target`, with the marker. -/
def markedMiddle : List Char := ' ' :: marker ++ " target=".toList

def titleMiddle : List Char := " title=".toList

variable {target : Target} {replace : List Char → List Char} {address middle : List Char}

theorem linkTag_source (target : Target) :
    (target.linkTag [mark]).source = linkText target (escapeAttribute target.url) markedMiddle ∧
      (target.linkTag []).source =
        linkText target (escapeAttribute target.url) " target=".toList := by
  have blank : escapeAttribute "_blank".toList = "_blank".toList := by decide
  unfold Target.linkTag Tag.opening Tag.start Target.linkAttributes linkText markedMiddle
  constructor
  all_goals
    simp only [Attribute.escaped, blank]
    simp [mark, linkName, Attribute.source]

theorem imageTag_source (target : Target) :
    (target.imageTag [mark]).source =
      imageText target (escapeAttribute target.url) titleMiddle := by
  unfold Target.imageTag Tag.single Tag.start Target.imageAttributes imageText titleMiddle
  simp [mark, imageName, Attribute.escaped, Attribute.source]

theorem opensAddress_of_quote (text : List Char) :
    opensAddress ((some '"').toList ++ text) = opensAddress text := by
  have notBlank : isBlank '"' = false := by decide
  simp [opensAddress, notBlank]

theorem mapAddresses_quoted {segment rest : List Char} (unquoted : '"' ∉ segment) :
    mapAddresses replace (some '"') (segment ++ '"' :: rest) = segment ++ '"' ::
      if opensAddress segment then insideAddress replace rest
      else mapAddresses replace (some '"') rest := by
  rw [mapAddresses_segment unquoted, opensAddress_of_quote]

/-- The attributes at the end of a link hold no address. -/
theorem mapAddresses_relation : mapAddresses replace (some '"') ("_blank".toList ++ '"' ::
    ((Attribute.escaped "rel" linkRelation).source ++ ['>'])) =
      "_blank".toList ++ '"' :: ((Attribute.escaped "rel" linkRelation).source ++ ['>']) := by
  have shape : (Attribute.escaped "rel" linkRelation).source ++ ['>'] =
      " rel=".toList ++ '"' :: (linkRelation ++ '"' :: ['>']) := by decide
  rw [shape, mapAddresses_quoted (by decide), if_neg (by decide), mapAddresses_quoted (by decide),
    if_neg (by decide), mapAddresses_quoted (by decide), if_neg (by decide),
    mapAddresses_unquoted (by decide)]

/-- In a link the address is replaced, and so is the text after a title that ends like the start of
one. -/
theorem mapAddresses_linkText (quoted : '"' ∉ address) (quoted' : '"' ∉ middle)
    (closed : opensAddress middle = false) : mapAddresses replace none (linkText target address middle) =
      linkText target (replace address) (if misleads target then replace middle else middle) := by
  have lead (rest : List Char) : mapAddresses replace none
      ("<a href=\"".toList ++ address ++ '"' :: rest) =
        "<a href=\"".toList ++ replace address ++ '"' :: mapAddresses replace (some '"') rest := by
    have shape (value : List Char) : "<a href=\"".toList ++ value ++ '"' :: rest =
        "<a href=".toList ++ '"' :: (value ++ '"' :: rest) := by simp
    have opens : opensAddress ((none : Option Char).toList ++ "<a href=".toList) = true := by decide
    rw [shape, mapAddresses_segment (by decide), if_pos opens, insideAddress_value quoted]
    simp
  have plain : mapAddresses replace (some '"') (middle ++ '"' :: ("_blank".toList ++ '"' ::
      ((Attribute.escaped "rel" linkRelation).source ++ ['>']))) = middle ++ '"' ::
        ("_blank".toList ++ '"' :: ((Attribute.escaped "rel" linkRelation).source ++ ['>'])) := by
    rw [mapAddresses_quoted quoted', closed, if_neg Bool.false_ne_true, mapAddresses_relation]
  unfold linkText
  rw [lead]
  cases title : target.title with
  | none => simpa [misleads, title] using plain
  | some words =>
    have value : '"' ∉ escapeAttribute words := (not_mem_escapeAttribute words).1
    have shape (rest : List Char) : (Attribute.escaped "title" words).source ++ rest =
        " title=".toList ++ '"' :: (escapeAttribute words ++ '"' :: rest) := by
      simp [Attribute.escaped, Attribute.source]
    have own : misleads target = opensAddress words := by simp [misleads, title]
    simp only [Option.toList_some, List.map_cons, List.map_nil, Attribute.written_cons,
      Attribute.written_nil, List.append_nil]
    rw [shape, shape, mapAddresses_quoted (by decide), if_neg (by decide), mapAddresses_quoted value,
      opensAddress_escapeAttribute, own]
    cases opensAddress words with
    | false => simp only [Bool.false_eq_true, if_false, plain]
    | true => simp only [if_true, insideAddress_value quoted', mapAddresses_relation]

/-- In an image the address is replaced, and so is the text after a label that ends like the start
of one. -/
theorem mapAddresses_imageText (quoted : '"' ∉ address) (quoted' : '"' ∉ middle)
    (closed : opensAddress middle = false) : mapAddresses replace none (imageText target address middle) =
      imageText target (replace address)
        (if opensAddress target.label then replace middle else middle) := by
  have label : '"' ∉ escapeAttribute target.label := (not_mem_escapeAttribute _).1
  have title : '"' ∉ escapeAttribute (target.title.getD target.label) := (not_mem_escapeAttribute _).1
  have last : mapAddresses replace (some '"') (escapeAttribute (target.title.getD target.label) ++
      '"' :: (' ' :: marker ++ " />".toList)) =
        escapeAttribute (target.title.getD target.label) ++ '"' ::
          (' ' :: marker ++ " />".toList) := by
    rw [mapAddresses_quoted title, insideAddress_unquoted (by decide),
      mapAddresses_unquoted (by decide), ite_self]
  have opens : opensAddress ((none : Option Char).toList ++ "<img src=".toList) = true := by decide
  have shape (value rest : List Char) : "<img src=\"".toList ++ value ++ '"' ::
      (" alt=\"".toList ++ escapeAttribute target.label ++ '"' :: rest) =
        "<img src=".toList ++ '"' :: (value ++ '"' ::
          (" alt=".toList ++ '"' :: (escapeAttribute target.label ++ '"' :: rest))) := by simp
  unfold imageText
  rw [shape, shape, mapAddresses_segment (by decide), if_pos opens, insideAddress_value quoted,
    mapAddresses_quoted (by decide), if_neg (by decide), mapAddresses_quoted label,
    opensAddress_escapeAttribute]
  cases opensAddress target.label with
  | false => rw [if_neg Bool.false_ne_true, mapAddresses_quoted quoted', closed,
      if_neg Bool.false_ne_true, last, if_neg Bool.false_ne_true]
  | true => rw [if_pos rfl, insideAddress_value quoted', last, if_pos rfl]

/-- The attributes of a link before the one that opens it elsewhere. -/
def linkLead (target : Target) (address : List Char) : List Attribute :=
  .valued "href".toList address :: target.title.toList.map (.escaped "title")

def imageLead (target : Target) (address : List Char) : List Attribute :=
  [.valued "src".toList address, .escaped "alt" target.label]

def linkEnd : List Char :=
  '"' :: ("_blank".toList ++ '"' :: ((Attribute.escaped "rel" linkRelation).source ++ ['>']))

theorem linkText_eq : linkText target address middle =
    '<' :: (linkName ++ (Attribute.written (linkLead target address) ++ (middle ++ linkEnd))) := by
  unfold linkText linkLead linkEnd
  simp [linkName, Attribute.source]

theorem imageText_eq : imageText target address middle = '<' :: (imageName ++
    (Attribute.written (imageLead target address) ++ (middle ++ '"' ::
      (escapeAttribute (target.title.getD target.label) ++ '"' ::
        (' ' :: (marker ++ " />".toList)))))) := by
  unfold imageText imageLead
  simp [imageName, Attribute.escaped, Attribute.source]

theorem linkLead_isClean (clean : '"' ∉ address ∧ '<' ∉ address ∧ '>' ∉ address) :
    ∀ entry ∈ linkLead target address, entry.IsClean ∧ entry.name ≠ marker := by
  refine List.forall_mem_cons.mpr
    ⟨⟨⟨by decide, clean⟩, (by decide : "href".toList ≠ marker)⟩, fun entry member => ?_⟩
  obtain ⟨title, _, rfl⟩ := List.mem_map.mp member
  exact ⟨Attribute.escaped_isClean (by decide) _, (by decide : "title".toList ≠ marker)⟩

theorem imageLead_isClean (clean : '"' ∉ address ∧ '<' ∉ address ∧ '>' ∉ address) :
    ∀ entry ∈ imageLead target address, entry.IsClean ∧ entry.name ≠ marker := by
  refine List.forall_mem_cons.mpr
    ⟨⟨⟨by decide, clean⟩, (by decide : "src".toList ≠ marker)⟩, fun entry member => ?_⟩
  obtain rfl := List.mem_singleton.mp member
  exact ⟨Attribute.escaped_isClean (by decide) _, (by decide : "alt".toList ≠ marker)⟩

/-- A link is marked, and its marker can be dropped. -/
theorem marked_linkText (clean : '"' ∉ address ∧ '<' ∉ address ∧ '>' ∉ address) :
    isMarked (linkText target address markedMiddle) = true ∧
      dropMarker (linkText target address markedMiddle) =
        .ok (linkText target address " target=".toList) := by
  have ends : (" target=".toList ++ linkEnd).head?.any endsMarker = true := rfl
  have shape : markedMiddle ++ linkEnd = ' ' :: (marker ++ (" target=".toList ++ linkEnd)) := by
    simp [markedMiddle]
  rw [linkText_eq, linkText_eq, shape]
  refine ⟨?_, dropMarker_of_marked (by decide) (linkLead_isClean clean) ends⟩
  rw [isMarked, cutAtMarker?_of_marked (by decide) (linkLead_isClean clean) ends]
  rfl

/-- An image is marked, and its marker can be dropped. -/
theorem marked_imageText (clean : '"' ∉ address ∧ '<' ∉ address ∧ '>' ∉ address) :
    isMarked (imageText target address titleMiddle) = true ∧
      dropMarker (imageText target address titleMiddle) = .ok ('<' :: (imageName ++
        (Attribute.written (imageLead target address ++
          [.escaped "title" (target.title.getD target.label)]) ++ " />".toList))) := by
  have lead : ∀ entry ∈ imageLead target address ++
      [.escaped "title" (target.title.getD target.label)], entry.IsClean ∧ entry.name ≠ marker := by
    intro entry member
    rcases List.mem_append.mp member with member | member
    · exact imageLead_isClean clean entry member
    · obtain rfl := List.mem_singleton.mp member
      exact ⟨Attribute.escaped_isClean (by decide) _, (by decide : "title".toList ≠ marker)⟩
  have ends : " />".toList.head?.any endsMarker = true := by decide
  have shape : imageText target address titleMiddle = '<' :: (imageName ++
      (Attribute.written (imageLead target address ++
        [.escaped "title" (target.title.getD target.label)]) ++ ' ' :: (marker ++ " />".toList))) := by
    rw [imageText_eq]
    unfold titleMiddle
    simp [Attribute.escaped, Attribute.source]
  rw [shape]
  refine ⟨?_, dropMarker_of_marked (by decide) lead ends⟩
  rw [isMarked, cutAtMarker?_of_marked (by decide) lead ends]
  rfl

/-- An encoded text holds no quotes and no blanks. -/
theorem solid_encode {text : List Char} :
    ∀ c ∈ Percent.encode text, c ≠ '"' ∧ c ≠ '\'' ∧ isBlank c = false := by
  intro c member
  refine ⟨?_, ?_, ?_⟩
  · rintro rfl
    exact Percent.not_mem_encode (by decide) (by decide) member
  · rintro rfl
    exact Percent.not_mem_encode (by decide) (by decide) member
  · rcases Percent.isUnreserved_of_mem_encode member with rfl | own
    · decide
    · rw [Bool.eq_false_iff]
      intro blank
      simp only [Percent.isUnreserved, not_isAlphanum_of_isBlank blank, Bool.false_or,
        Bool.or_eq_true, decide_eq_true_eq] at own
      rcases own with ((rfl | rfl) | rfl) | rfl <;> exact absurd blank (by decide)

theorem clean_encode (text : List Char) :
    '"' ∉ Percent.encode text ∧ '<' ∉ Percent.encode text ∧ '>' ∉ Percent.encode text :=
  ⟨Percent.not_mem_encode (by decide) (by decide), Percent.not_mem_encode (by decide) (by decide),
    Percent.not_mem_encode (by decide) (by decide)⟩

/-- An image whose label misleads is marked while it is held. -/
theorem marked_of_misleading_label (clean : '"' ∉ address ∧ '<' ∉ address ∧ '>' ∉ address) :
    isMarked (imageText target address (Percent.encode titleMiddle)) = true := by
  have title : '"' ∉ escapeAttribute (target.title.getD target.label) := (not_mem_escapeAttribute _).1
  have valued : ∀ name, Attribute.flag name ∉ imageLead target address := by
    simp [imageLead, Attribute.escaped]
  rw [isMarked, imageText_eq, cutAtMarker?_lead (by decide),
    cutAtMarker?_written (imageLead_isClean clean) (.inr valued), cutAtMarker?_solid solid_encode,
    cutAtMarker?_quoted title, cutAtMarker?_marker (by decide)]
  rfl

/-- A link whose title misleads has no marker while it is held. -/
theorem not_marked_of_misleading_title (clean : '"' ∉ address ∧ '<' ∉ address ∧ '>' ∉ address) :
    isMarked (linkText target address (Percent.encode markedMiddle)) = false := by
  have valued : ∀ name, Attribute.flag name ∉ linkLead target address := by
    simp [linkLead, Attribute.escaped]
  have passed : cutAtMarker? none none linkEnd = none := by decide
  rw [isMarked, linkText_eq, cutAtMarker?_lead (by decide),
    cutAtMarker?_written (linkLead_isClean clean) (.inr valued), cutAtMarker?_solid solid_encode,
    passed]
  rfl

theorem linkText_isCompact (clean : '"' ∉ address ∧ '<' ∉ address ∧ '>' ∉ address)
    (clean' : '<' ∉ middle ∧ '>' ∉ middle) :
    ∃ inner, linkText target address middle = '<' :: (inner ++ ['>']) ∧ '<' ∉ inner ∧ '>' ∉ inner := by
  have lead : ∀ entry ∈ linkLead target address, entry.IsClean :=
    fun entry member => (linkLead_isClean clean entry member).1
  obtain ⟨less, greater⟩ := Attribute.not_angle_of_written lead
  have ends : linkEnd = linkEnd.dropLast ++ ['>'] ∧ '<' ∉ linkEnd.dropLast ∧ '>' ∉ linkEnd.dropLast := by
    decide
  have name : '<' ∉ linkName ∧ '>' ∉ linkName := by decide
  refine ⟨linkName ++ (Attribute.written (linkLead target address) ++ (middle ++ linkEnd.dropLast)),
    ?_, ?_, ?_⟩
  · rw [linkText_eq, ends.1]
    simp
  · simp [name.1, less, clean'.1, ends.2.1]
  · simp [name.2, greater, clean'.2, ends.2.2]

theorem imageText_isCompact (clean : '"' ∉ address ∧ '<' ∉ address ∧ '>' ∉ address)
    (clean' : '<' ∉ middle ∧ '>' ∉ middle) :
    ∃ inner, imageText target address middle = '<' :: (inner ++ ['>']) ∧ '<' ∉ inner ∧ '>' ∉ inner := by
  have lead : ∀ entry ∈ imageLead target address, entry.IsClean :=
    fun entry member => (imageLead_isClean clean entry member).1
  obtain ⟨less, greater⟩ := Attribute.not_angle_of_written lead
  obtain ⟨_, less', greater'⟩ := not_mem_escapeAttribute (target.title.getD target.label)
  have name : '<' ∉ imageName ∧ '>' ∉ imageName := by decide
  have word : '<' ∉ marker ∧ '>' ∉ marker := by decide
  refine ⟨imageName ++ (Attribute.written (imageLead target address) ++ (middle ++ '"' ::
    (escapeAttribute (target.title.getD target.label) ++ '"' :: (' ' :: (marker ++ " /".toList))))),
    ?_, ?_, ?_⟩
  · rw [imageText_eq]
    simp
  · simp [name.1, less, clean'.1, less', word.1]
  · simp [name.2, greater, clean'.2, greater', word.2]

theorem unescape_middle : unescape markedMiddle = markedMiddle ∧ unescape titleMiddle = titleMiddle := by
  have plain : escapeAttribute markedMiddle = markedMiddle ∧
      escapeAttribute titleMiddle = titleMiddle := by decide
  constructor
  · rw [← plain.1, unescape_escapeAttribute, plain.1]
  · rw [← plain.2, unescape_escapeAttribute, plain.2]

/-- The tag of a link while it is held. -/
theorem heldSource_link (target : Target) : heldSource (target.linkTag [mark]) =
    linkText target (Percent.encode target.url)
      (if misleads target then Percent.encode markedMiddle else markedMiddle) := by
  have clean := not_mem_escapeAttribute target.url
  rw [heldSource, (linkTag_source target).1, (marked_linkText clean).1, if_pos rfl, encodeTag,
    mapAddresses_linkText clean.1 (by decide) (by decide), unescape_escapeAttribute,
    unescape_middle.1]

/-- The tag of an image while it is held. -/
theorem heldSource_image (target : Target) : heldSource (target.imageTag [mark]) =
    imageText target (Percent.encode target.url)
      (if opensAddress target.label then Percent.encode titleMiddle else titleMiddle) := by
  have clean := not_mem_escapeAttribute target.url
  rw [heldSource, imageTag_source, (marked_imageText clean).1, if_pos rfl, encodeTag,
    mapAddresses_imageText clean.1 (by decide) (by decide), unescape_escapeAttribute,
    unescape_middle.2]

/-- A link whose title does not mislead is restored without its marker. -/
theorem decodeTag_link (clear : misleads target = false) :
    decodeTag (heldSource (target.linkTag [mark])) = .ok (target.linkTag []).source := by
  have held := clean_encode target.url
  rw [heldSource_link, clear, if_neg Bool.false_ne_true, decodeTag, (marked_linkText held).1,
    if_pos rfl, mapAddresses_linkText held.1 (by decide) (by decide), clear,
    if_neg Bool.false_ne_true, Percent.decode_encode,
    (marked_linkText (not_mem_escapeAttribute target.url)).2, (linkTag_source target).2]

/-- A link whose title misleads stays as it is held. -/
theorem decodeTag_misleading (misleading : misleads target = true) :
    decodeTag (heldSource (target.linkTag [mark])) = .ok (heldSource (target.linkTag [mark])) := by
  have held := clean_encode target.url
  rw [heldSource_link, misleading, if_pos rfl, decodeTag, not_marked_of_misleading_title held,
    if_neg Bool.false_ne_true]

/-- An image is restored without its marker. -/
theorem decodeTag_image (target : Target) :
    decodeTag (heldSource (target.imageTag [mark])) = .ok (target.imageTag []).source := by
  have held := clean_encode target.url
  have hidden := clean_encode titleMiddle
  have restored : decodeTag (heldSource (target.imageTag [mark])) =
      dropMarker (imageText target (escapeAttribute target.url) titleMiddle) := by
    have plain : escapeAttribute titleMiddle = titleMiddle := by decide
    rw [heldSource_image]
    cases opens : opensAddress target.label with
    | false =>
      rw [if_neg Bool.false_ne_true, decodeTag, (marked_imageText held).1, if_pos rfl,
        mapAddresses_imageText held.1 (by decide) (by decide), opens, if_neg Bool.false_ne_true,
        Percent.decode_encode]
    | true =>
      have closed : opensAddress (Percent.encode titleMiddle) = false := by decide
      rw [if_pos rfl, decodeTag, marked_of_misleading_label held, if_pos rfl,
        mapAddresses_imageText held.1 hidden.1 closed, opens, if_pos rfl, Percent.decode_encode,
        Percent.decode_encode, plain]
  rw [restored, (marked_imageText (not_mem_escapeAttribute target.url)).2]
  simp [Target.imageTag, Tag.single, Tag.start, Target.imageAttributes, imageLead,
    Attribute.escaped]

end PostMarkup.LinkTarget
