import PostMarkup.Entity.Address
import PostMarkup.Tag.Outermost

/-! # Finding entities

A text is read once from left to right. What is found is stepped over, so that no entity starts
inside another, and in markup tags are stepped over too.
-/

namespace PostMarkup

namespace EntityKind

/-- What stands at the start of a text, and the number of characters it takes; `before` is the
text before it, nearest character first. -/
def read? (form : TextForm) (bare : Bool) (before : List Char) :
    List Char → Option (EntityKind × Nat)
  | [] => none
  | c :: rest =>
    if c = '#' ∨ c = '＃' then
      (Hashtag.read? form before rest).map fun tag => (.hashtag tag, tag.length + 1)
    else if c = '@' ∨ c = '＠' then
      (Mention.read? before rest).map fun account => (.mention account, account.length + 1)
    else
      (Address.read? form bare before (c :: rest)).map fun address =>
        (.url (if form = .html then unescape address else address), address.length)

end EntityKind

namespace Entity

/-- The entities of the rest of a text that starts at a position; `before` is the text before it,
nearest character first. -/
def scan (form : TextForm) (bare : Bool) (position : Nat) (before : List Char) :
    List Char → List Entity
  | [] => []
  | c :: rest =>
    if form = .html ∧ c = '<' then
      let taken := ((Tag.read? (c :: rest)).map fun tag => tag.source.length - 1).getD 0
      scan form bare (position + 1 + taken) ((rest.take taken).reverse ++ c :: before)
        (rest.drop taken)
    else match EntityKind.read? form bare before (c :: rest) with
      | some (kind, length) =>
        ⟨kind, position, position + length⟩ ::
          scan form bare (position + length) ((rest.take (length - 1)).reverse ++ c :: before)
            (rest.drop (length - 1))
      | none => scan form bare (position + 1) (c :: before) rest
termination_by text => text.length
decreasing_by all_goals (simp only [List.length_cons, List.length_drop]; omega)

/-- The addresses, hashtags and mentions of a text, none of which overlaps another. -/
def extract (form : TextForm) (bare : Bool) (text : List Char) : List Entity :=
  selectDisjoint (scan form bare 0 [] text)

/-- The elements whose insides are left alone when rendered markup is linked. -/
def finishedElements : ElementNames where
  normal := ["h1", "h2", "h3", "h4", "h5", "h6", "em", "strong", "s", "sup", "u", "mark", "code",
    "a", "ul", "ol", "blockquote", "pre"]
  void := ["img", "hr", "br"]

/-- One entity for each outermost element that is left alone. -/
def extractFinished (markup : List Char) : List Entity :=
  (outermostSpans finishedElements markup).map fun span => ⟨.markup, span⟩

/-- The elements of rendered markup that are left alone, and after them the addresses, hashtags and
mentions outside all of them. -/
def extractRendered (bare : Bool) (markup : List Char) : List Entity :=
  let finished := extractFinished markup
  let found := extract .html bare markup
  finished ++ found.filter fun entity =>
    !finished.any fun element => element.span.overlaps entity.span

end Entity

end PostMarkup
