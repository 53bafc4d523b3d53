import PostMarkup.Text.Span

/-! # Entities

An entity is a span of a text together with what stands there: a web address, a hashtag, a
mention, or markup that is to be left alone.
-/

namespace PostMarkup

/-- What stands in the span of an entity. -/
inductive EntityKind where
  | url (address : List Char)
  | hashtag (tag : List Char)
  | mention (account : List Char)
  | markup
deriving DecidableEq, Repr

/-- A part of a text with a meaning of its own. -/
structure Entity where
  kind : EntityKind
  span : Span
deriving DecidableEq, Repr

namespace Entity

def isMarkup (entity : Entity) : Bool := entity.kind matches .markup

/-- The entities in the order of their starts; entities with one start keep their order. -/
def inOrder (entities : List Entity) : List Entity :=
  entities.mergeSort fun left right => left.span.start ≤ right.span.start

/-- The entities that do not overlap the one kept before them. -/
def selectFrom (last : Option Entity) : List Entity → List Entity
  | [] => []
  | entity :: rest =>
    if last.any fun kept => kept.span.overlaps entity.span then selectFrom last rest
    else entity :: selectFrom (some entity) rest

/-- The entities that remain when each that overlaps an earlier kept one is removed. -/
def selectDisjoint (entities : List Entity) : List Entity :=
  selectFrom none (inOrder entities)

end Entity

/-- How the text between tags is written. -/
inductive TextForm where
  /-- Text as its author typed it; it holds no tags. -/
  | plain
  /-- Markup, whose text is escaped. -/
  | html
deriving DecidableEq, Repr

end PostMarkup
