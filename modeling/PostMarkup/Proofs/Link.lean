import PostMarkup.Link
import PostMarkup.Proofs.Entity.Token
import PostMarkup.Proofs.Renderer.Flow

/-! # Links as fragments

What is written for an address, a hashtag or a mention is a fragment of inline elements on one line
with at most one link in it.
-/

namespace PostMarkup.Link

open PostMarkup.Text PostMarkup.Attribute

variable {outer : List (List Char)} {text : List Char}

def spanName : List Char := "span".toList

/-- A span on one line. -/
theorem fragment_span {attributes : List Attribute} {content : List Char}
    (given : Attribute.Ordinary attributes) (inside : Fragment postModel (spanName :: outer) content) :
    Fragment postModel outer ((Tag.opening spanName attributes).source ++
      (content ++ (Tag.stop spanName).source)) :=
  .inline (by decide) (by decide) (by decide) given (fun same => absurd same (by decide)) inside

/-- A link outside links. -/
theorem fragment_link {attributes : List Attribute} {content : List Char}
    (given : Attribute.Ordinary attributes) (apart : linkName ∉ outer)
    (inside : Fragment postModel (linkName :: outer) content) :
    Fragment postModel outer ((Tag.opening linkName attributes).source ++
      (content ++ (Tag.stop linkName).source)) :=
  .inline (by decide) (by decide) (by decide) given (fun _ => apart) inside

theorem ordinary_class {cls : String} (named : '\n' ∉ cls.toList) :
    Attribute.Ordinary [.escaped "class" cls.toList] :=
  ordinary_cons (by decide) (by decide) named ordinary_nil

def mentionAttributes (account : AccountLink) : List Attribute :=
  [.escaped "href" account.url, .escaped "class" "u-url mention".toList]

def hashtagAttributes (href : List Char) : List Attribute :=
  [.escaped "href" href, .escaped "class" "mention hashtag".toList, .escaped "rel" "tag".toList]

/-- The text of a link to an account or a hashtag: a sign and a word in a span. -/
def signedWord (sign : Char) (word : List Char) : List Char :=
  sign :: ((Tag.opening spanName []).source ++ (escapeText word ++ (Tag.stop spanName).source))

theorem mention_eq (account : AccountLink) : mention account =
    (Tag.opening spanName [.escaped "class" "h-card".toList]).source ++
      (((Tag.opening linkName (mentionAttributes account)).source ++
        (signedWord '@' account.username ++ (Tag.stop linkName).source)) ++
          (Tag.stop spanName).source) := by
  have card : escapeAttribute "h-card".toList = "h-card".toList := by decide
  have cls : escapeAttribute "u-url mention".toList = "u-url mention".toList := by decide
  unfold mention signedWord mentionAttributes Tag.opening Tag.start Tag.stop
  simp only [Attribute.escaped, card, cls]
  simp [spanName, linkName, Attribute.source, writeAttribute]

theorem hashtag_eq (settings : Settings) (tag : List Char) : hashtag settings tag =
    (Tag.opening linkName (hashtagAttributes
      (settings.hashtagUrl (Percent.encode (Unicode.lowercase tag))))).source ++
        (signedWord '#' tag ++ (Tag.stop linkName).source) := by
  have cls : escapeAttribute "mention hashtag".toList = "mention hashtag".toList := by decide
  have rel : escapeAttribute "tag".toList = "tag".toList := by decide
  unfold hashtag signedWord hashtagAttributes Tag.opening Tag.start Tag.stop
  simp only [Attribute.escaped, cls, rel]
  simp [spanName, linkName, Attribute.source, writeAttribute]

theorem fragment_signedWord {sign : Char} (plain : sign ≠ '<' ∧ sign ≠ '\n') (line : '\n' ∉ text) :
    Fragment postModel outer (signedWord sign text) := by
  apply Fragment.cons plain.1
  · exact ⟨trivial, fun same => absurd same plain.2⟩
  · exact fragment_span ordinary_nil (.line line)

theorem ordinary_mentionAttributes {account : AccountLink} (url : '\n' ∉ account.url) :
    Attribute.Ordinary (mentionAttributes account) :=
  ordinary_cons (by decide) (by decide) url (ordinary_cons (by decide) (by decide) (by decide) ordinary_nil)

theorem fragment_mention {account : AccountLink} (apart : linkName ∉ outer)
    (username : '\n' ∉ account.username) (url : '\n' ∉ account.url) :
    Fragment postModel outer (mention account) := by
  have card : Attribute.Ordinary [.escaped "class" "h-card".toList] := ordinary_class (by decide)
  rw [mention_eq]
  apply fragment_span card
  apply fragment_link (ordinary_mentionAttributes url)
  · simpa [spanName, linkName] using apart
  · exact fragment_signedWord (by decide) username

theorem newline_not_mem_hashtagUrl {settings : Settings} (base : '\n' ∉ settings.baseUrl)
    (tag : List Char) : '\n' ∉ settings.hashtagUrl (Percent.encode tag) := by
  unfold Settings.hashtagUrl
  apply List.not_mem_append
  · apply List.not_mem_append
    · intro member
      exact base ((dropEndWhile_isStart _ _).subset member)
    · decide
  · exact Percent.not_mem_encode (by decide) (by decide)

theorem ordinary_hashtagAttributes {settings : Settings} (base : '\n' ∉ settings.baseUrl)
    (tag : List Char) :
    Attribute.Ordinary (hashtagAttributes (settings.hashtagUrl (Percent.encode tag))) :=
  ordinary_cons (by decide) (by decide) (newline_not_mem_hashtagUrl base tag)
    (ordinary_cons (by decide) (by decide) (by decide)
      (ordinary_cons (by decide) (by decide) (by decide) ordinary_nil))

theorem fragment_hashtag {settings : Settings} (base : '\n' ∉ settings.baseUrl)
    (apart : linkName ∉ outer) (line : '\n' ∉ text) :
    Fragment postModel outer (hashtag settings text) := by
  rw [hashtag_eq]
  exact fragment_link (ordinary_hashtagAttributes base _) apart (fragment_signedWord (by decide) line)

def addressAttributes (href : List Char) : List Attribute :=
  [.escaped "href" href, .escaped "target" "_blank".toList, .escaped "rel" linkRelation]

theorem writeSpan_eq (cls : String) (content : List Char) : AddressLabel.writeSpan cls content =
    (Tag.opening spanName [.escaped "class" cls.toList]).source ++
      (escapeText content ++ (Tag.stop spanName).source) := by
  unfold AddressLabel.writeSpan Tag.opening Tag.start Tag.stop
  simp [spanName]

theorem fragment_writeSpan {cls : String} (named : '\n' ∉ cls.toList) (line : '\n' ∉ text) :
    Fragment postModel outer (AddressLabel.writeSpan cls text) := by
  rw [writeSpan_eq]
  exact fragment_span (ordinary_class named) (.line line)

/-- The label of an address on one line. -/
theorem fragment_label (limit : Nat) (line : '\n' ∉ text) :
    Fragment postModel outer (AddressLabel.ofUrl limit text).html := by
  unfold AddressLabel.html AddressLabel.ofUrl
  have lead : '\n' ∉ text.take (AddressLabel.leadLength text) := fun member =>
    line (List.mem_of_mem_take member)
  have rest : '\n' ∉ text.drop (AddressLabel.leadLength text) := fun member =>
    line (List.mem_of_mem_drop member)
  apply Fragment.append
  · apply Fragment.append
    · exact fragment_writeSpan (by decide) lead
    · apply fragment_writeSpan
      · split
        · decide
        · decide
      · intro member
        exact rest (List.mem_of_mem_take member)
  · exact fragment_writeSpan (by decide) fun member => rest (List.mem_of_mem_drop member)

theorem address_link_eq (settings : Settings) (href url : List Char) :
    "<a".toList ++ writeAttribute "href" href ++ writeAttribute "target" "_blank".toList ++
        writeAttribute "rel" linkRelation ++
          '>' :: (AddressLabel.ofUrl settings.shownLength url).html ++ "</a>".toList =
      (Tag.opening linkName (addressAttributes href)).source ++
        ((AddressLabel.ofUrl settings.shownLength url).html ++ (Tag.stop linkName).source) := by
  unfold addressAttributes Tag.opening Tag.start Tag.stop
  simp [linkName]

theorem ordinary_addressAttributes {href : List Char} (line : '\n' ∉ href) :
    Attribute.Ordinary (addressAttributes href) :=
  ordinary_cons (by decide) (by decide) line
    (ordinary_cons (by decide) (by decide) (by decide)
      (ordinary_cons (by decide) (by decide) (by decide) ordinary_nil))

/-- A link to an address, or the address as text. -/
theorem address_eq (isAddress : List Char → Bool) (settings : Settings) (line : '\n' ∉ text) :
    address isAddress settings text = escapeText text ∨ ∃ href, '\n' ∉ href ∧
      address isAddress settings text = (Tag.opening linkName (addressAttributes href)).source ++
      ((AddressLabel.ofUrl settings.shownLength text).html ++ (Tag.stop linkName).source) := by
  unfold address
  generalize chosen : (if AddressLabel.leadLength text = 0 then "http://".toList ++ text else text) = href
  have href' : '\n' ∉ href := by
    rw [← chosen]
    split
    · exact List.not_mem_append (by decide) line
    · exact line
  simp only
  split
  · exact .inr ⟨href, href', address_link_eq settings href text⟩
  · exact .inl rfl

theorem fragment_address {isAddress : List Char → Bool} {settings : Settings} (apart : linkName ∉ outer)
    (line : '\n' ∉ text) : Fragment postModel outer (address isAddress settings text) := by
  rcases address_eq isAddress settings line with same | ⟨href, href', same⟩
  · rw [same]
    exact .line line
  · rw [same]
    exact fragment_link (ordinary_addressAttributes href') apart (fragment_label _ line)

/-- Where an entity stands on one line outside links, a fragment is written for it. -/
theorem fragment_entity {isAddress : List Char → Bool} {settings : Settings} {resolver : Resolver} {found : Entity}
    {slice : List Char} (base : '\n' ∉ settings.baseUrl)
    (known : ∀ name account, resolver name = some account → '\n' ∉ account.username ∧ '\n' ∉ account.url)
    (apart : linkName ∉ outer) (line : found.kind.OnLine) :
    Fragment postModel outer (entity isAddress settings resolver found slice) := by
  unfold entity
  cases kind : found.kind with
  | markup => simp [kind, EntityKind.OnLine] at line
  | url written =>
    rw [kind] at line
    exact fragment_address apart line
  | hashtag tag =>
    rw [kind] at line
    exact fragment_hashtag base apart line
  | mention account =>
    rw [kind] at line
    simp only
    split
    · rename_i person named
      obtain ⟨username, url⟩ := known account person named
      exact fragment_mention apart username url
    · apply Fragment.cons (by decide)
      · exact ⟨trivial, fun same => absurd same (by decide)⟩
      · exact .line line

end PostMarkup.Link
