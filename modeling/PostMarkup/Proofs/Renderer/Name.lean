import PostMarkup.Proofs.Emoji.Exact
import PostMarkup.Renderer

/-! # Names and content warnings

A name and a content warning are escaped before their shortcodes are replaced. So the reader of shortcodes finds
no tag in them, and it looks up what escaping makes of the text between two colons. What it writes is escaped
text and images, and no shortcode and no address gets out of the quotes around it. With the shortcodes back in
place of their images, the text can be read off the HTML again.
-/

namespace PostMarkup.Emoji

open PostMarkup.Text PostMarkup.Markdown

/-- Some HTML and the text that it depicts: characters that are escaped, and shortcodes with their two colons that
are shown as images. The map has the shortcodes as they are after escaping. -/
inductive Depicts (map : EmojiImages) : List Char → List Char → Prop
  | nil : Depicts map [] []
  | char {c : Char} {html text : List Char} : Depicts map html text → Depicts map (escapeChar c ++ html) (c :: text)
  | emoji {code url html text : List Char} : ':' ∉ code → map.get? (escapeText code) = some url →
      Depicts map html text → Depicts map (image (escapeText code) url ++ html) (':' :: (code ++ ':' :: text))

/-- Whether a tag is one of a void image whose attributes have the known names, in their order, and values between
double quotes without double quotes and angle brackets in them. -/
def IsImageTag (tag : Tag) : Prop :=
  ∃ attributes, tag = .single imageName attributes ∧
    attributes.map Attribute.name = ["draggable", "class", "alt", "title", "src"].map String.toList ∧
    ∀ entry ∈ attributes, ∃ name value, entry = .valued name value ∧ '"' ∉ value ∧ '<' ∉ value ∧ '>' ∉ value

/-- The value of the first attribute of a name in a tag, as it is written there. -/
def valueOf (name : List Char) : List Char → List Char
  | [] => []
  | c :: rest =>
    match (' ' :: name ++ "=\"".toList).isPrefixOf? (c :: rest) with
    | some fromValue => fromValue.takeWhile (· ≠ '"')
    | none => valueOf name rest

/-- What stands for a piece where images cannot be shown: the alternative text of a tag. -/
def alternative : Piece → List Char
  | .tag tag => unescape (valueOf "alt".toList tag.source)
  | .char c => [c]

/-- Markup with the shortcodes of its images in place of them. -/
def withCodes (html : List Char) : List Char := (pieces html).flatMap alternative

variable {map : EmojiImages} {html text code : List Char} {c : Char}

theorem Depicts.chars (depicts : Depicts map html text) (front : List Char) :
    Depicts map (escapeText front ++ html) (front ++ text) := by
  induction front with
  | nil => exact depicts
  | cons c rest ih =>
    rw [escapeText_cons, List.append_assoc]
    exact .char ih

theorem escapeChar_colon : escapeChar ':' = [':'] := rfl

/-- Escaping writes colons and angle brackets for no other characters. -/
theorem clean_escapeChar (differs : c ≠ ':') : ':' ∉ escapeChar c ∧ '<' ∉ escapeChar c := by
  constructor
  · intro member
    have own : ':' ∈ [c] := mem_of_mem_escapeText (by simpa using member) (by decide) (by decide)
    exact differs (List.mem_singleton.mp own).symm
  · exact (not_mem_escapeChar c).1

theorem replaceFrom_text {front : List Char} (plain : ':' ∉ front) (less : '<' ∉ front) (depth : Nat)
    (rest : List Char) : replaceFrom map depth .text (front ++ rest) = front ++ replaceFrom map depth .text rest := by
  induction front with
  | nil => rfl
  | cons c others ih =>
    simp only [List.mem_cons, not_or] at plain less
    rw [List.cons_append, replaceFrom, if_neg (Ne.symm less.1), if_neg (Ne.symm plain.1), ih plain.2 less.2,
      List.cons_append]

/-- Whether the reader depicts a text when it is given the escaped text, also after an open colon and the escaped
start of a shortcode. -/
structure Reads (map : EmojiImages) (text : List Char) : Prop where
  outside : Depicts map (replaceFrom map 0 .text (escapeText text)) text
  code : ∀ code, ':' ∉ code →
    Depicts map (replaceFrom map 0 (.code (escapeText code).reverse) (escapeText text)) (':' :: (code ++ text))

namespace Reads

theorem nil : Reads map [] where
  outside := .nil
  code code _ := by
    have pending : Depicts map _ _ := Depicts.nil.chars (':' :: code)
    simpa [replaceFrom, Reading.pending, escapeChar_colon] using pending

/-- A colon opens a shortcode, or it closes one that is known or opens the next one. -/
theorem colon (later : Reads map text) : Reads map (':' :: text) where
  outside := later.code [] List.not_mem_nil
  code code plain := by
    have read : escapeText (':' :: text) = ':' :: escapeText text := rfl
    rw [read, replaceFrom, if_pos rfl, if_pos rfl, List.reverse_reverse]
    split
    · rename_i url known
      exact .emoji plain known later.outside
    · exact (later.code [] List.not_mem_nil).chars (':' :: code)

theorem char (differs : c ≠ ':') (later : Reads map text) : Reads map (c :: text) where
  outside := by
    obtain ⟨plain, less⟩ := clean_escapeChar differs
    rw [escapeText_cons, replaceFrom_text plain less]
    exact .char later.outside
  code code unclosed := by
    obtain ⟨plain, less⟩ := clean_escapeChar differs
    have longer := later.code (code ++ [c]) (List.not_mem_append unclosed (by simpa using Ne.symm differs))
    rw [escapeText_cons, replaceFrom_pending plain less]
    simpa using longer

end Reads

theorem reads (map : EmojiImages) (text : List Char) : Reads map text := by
  induction text with
  | nil => exact .nil
  | cons c rest ih =>
    by_cases colon : c = ':'
    · exact colon ▸ ih.colon
    · exact ih.char colon

theorem depicts_replace (map : EmojiImages) (text : List Char) : Depicts map (replace map (escapeText text)) text := by
  unfold replace
  split
  · have whole : Depicts map _ _ := Depicts.nil.chars text
    simpa using whole
  · exact (reads map text).outside

theorem isImageTag (shortcode url : List Char) : IsImageTag (.single imageName (imageAttributes shortcode url)) := by
  refine ⟨_, rfl, rfl, ?_⟩
  have escaped (name : String) (text : List Char) : ∃ own value, Attribute.escaped name text = .valued own value ∧
      '"' ∉ value ∧ '<' ∉ value ∧ '>' ∉ value := ⟨_, _, rfl, not_mem_escapeAttribute text⟩
  simp only [imageAttributes, List.forall_mem_cons]
  exact ⟨escaped _ _, escaped _ _, escaped _ _, escaped _ _, escaped _ _, by simp⟩

/-- What is written in an image before its alternative text. -/
def imageLead : List Char := "<img draggable=\"false\" class=\"emojione\" alt=\"".toList

theorem valueOf_imageLead (rest : List Char) :
    valueOf "alt".toList (imageLead ++ rest) = rest.takeWhile (· ≠ '"') := by
  cbv

theorem image_eq_imageLead (shortcode url : List Char) : ∃ rest,
    image shortcode url = imageLead ++ (escapeAttribute (':' :: (shortcode ++ [':'])) ++ '"' :: rest) := by
  have lead : "<img draggable=\"false\" class=\"emojione\" alt=\":".toList = imageLead ++ [':'] := by decide
  have ends : ":\" title=\":".toList = ':' :: '"' :: " title=\":".toList := by decide
  have colon : escapeAttributeChar ':' = [':'] := by decide
  unfold image
  rw [lead, ends, escapeAttribute_cons, escapeAttribute_append, escapeAttribute_cons, escapeAttribute_nil, colon]
  simp only [List.append_assoc, List.cons_append, List.nil_append, List.append_nil]
  exact ⟨_, rfl⟩

/-- The alternative text of an image is its shortcode with the colons. -/
theorem alternative_image (shortcode url : List Char) :
    alternative (.tag (.single imageName (imageAttributes shortcode url))) = ':' :: (shortcode ++ [':']) := by
  obtain ⟨rest, written⟩ := image_eq_imageLead shortcode url
  have inside : ∀ c ∈ escapeAttribute (':' :: (shortcode ++ [':'])), decide (c ≠ '"') = true := fun c member =>
    decide_eq_true (ne_of_mem_of_not_mem member (not_mem_escapeAttribute _).1)
  rw [alternative, ← image_eq, written, valueOf_imageLead, List.takeWhile_append_of_pos inside,
    List.takeWhile_cons_of_neg (by simp), List.append_nil, unescape_escapeAttribute]

namespace Depicts

/-- All tags are those of images, and no other angle brackets are left. -/
theorem imageTag_or_char (depicts : Depicts map html text) : (∀ tag, .tag tag ∈ pieces html → IsImageTag tag) ∧
    ∀ c, .char c ∈ pieces html → c ≠ '<' ∧ c ≠ '>' := by
  induction depicts with
  | nil => simp
  | @char c _ _ _ ih =>
    have clean := not_mem_escapeChar c
    rw [pieces_of_not_mem clean.1]
    constructor
    · intro tag member
      exact ih.1 tag (by simpa using member)
    · intro d member
      rcases List.mem_append.mp member with own | later
      · have own : d ∈ escapeChar c := by simpa using own
        exact ⟨ne_of_mem_of_not_mem own clean.1, ne_of_mem_of_not_mem own clean.2⟩
      · exact ih.2 d later
  | emoji _ _ _ ih =>
    rw [pieces_image]
    constructor
    · intro tag member
      rcases List.mem_cons.mp member with same | later
      · cases same
        exact isImageTag _ _
      · exact ih.1 tag later
    · intro d member
      exact ih.2 d (by simpa using member)

theorem withCodes_eq (depicts : Depicts map html text) : withCodes html = escapeText text := by
  induction depicts with
  | nil => simp [withCodes]
  | @char c _ _ _ ih =>
    unfold withCodes at ih ⊢
    rw [pieces_of_not_mem (not_mem_escapeChar c).1, List.flatMap_append, ih, escapeText_cons, List.flatMap_map]
    simp [alternative]
  | @emoji code url _ _ _ _ _ ih =>
    unfold withCodes at ih ⊢
    rw [pieces_image, List.flatMap_cons, ih, alternative_image]
    simp [escapeChar_colon]

end Depicts

/-- Whether some HTML shows a text by escaped text and images only, where the images have the known attributes, and
the text can be read off it again. -/
structure ShowsName (map : EmojiImages) (html text : List Char) : Prop where
  depicts : Depicts map html text
  tags : ∀ tag, .tag tag ∈ pieces html → IsImageTag tag
  chars : ∀ c, .char c ∈ pieces html → c ≠ '<' ∧ c ≠ '>'
  restored : unescape (withCodes html) = text

theorem showsName_replace (map : EmojiImages) (text : List Char) :
    ShowsName map (replace map (escapeText text)) text where
  depicts := depicts_replace map text
  tags := (depicts_replace map text).imageTag_or_char.1
  chars := (depicts_replace map text).imageTag_or_char.2
  restored := by rw [(depicts_replace map text).withCodes_eq, unescape_escapeText]

/-- Quotes and references in a shortcode stay inside the quotes of the image. -/
example : replace ⟨[("\"&lt;".toList, "x\">".toList)]⟩ (escapeText "a:\"<:".toList) =
    ("a<img draggable=\"false\" class=\"emojione\" alt=\":&quot;&amp;lt;:\" title=\":&quot;&amp;lt;:\" " ++
      "src=\"x&quot;&gt;\" />").toList := by decide

end PostMarkup.Emoji

namespace PostMarkup.Renderer

open PostMarkup.Emoji

/-- A content warning and a name with its emoji are shown by escaped text and images only, whatever the shortcodes
and addresses of the emoji are, and reading the references of the HTML, with the shortcodes in place of the images,
gives the text back. -/
theorem showsName_warningHtml_nameHtml (renderer : Renderer) :
    (∀ post : Post, ShowsName (.ofEmojis renderer.settings.animatedEmoji post.emojis) (renderer.warningHtml post)
      post.warning) ∧
    ∀ account : Account, ShowsName (.ofEmojis renderer.settings.animatedEmoji account.emojis)
      (renderer.nameHtml true account) account.displayName :=
  ⟨fun post => showsName_replace _ post.warning, fun account => showsName_replace _ account.displayName⟩

end PostMarkup.Renderer
