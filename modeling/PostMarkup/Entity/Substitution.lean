import PostMarkup.Entity.Basic
import PostMarkup.Fault
import PostMarkup.Reference.Writer

/-! # Replacing the entities of a text

The entities are taken in the order of their starts. One that starts before the end of the last
one taken, or reaches past the text, or is empty, is passed over. What lies between the entities
taken is copied if the text is markup, and escaped if it is plain.
-/

namespace PostMarkup

def TextForm.markup : TextForm → List Char → List Char
  | plain, text => escapeText text
  | html, text => text

namespace Entity

/-- The markup of `rest`, which starts at `position`, where the entities come in the order of their
starts. -/
def substituteFrom (form : TextForm) (render : Entity → List Char → List Char) (position : Nat)
    (rest : List Char) : List Entity → Except Fault (List Char)
  | [] => .ok (form.markup rest)
  | entity :: others =>
    let span := entity.span
    if span.start < position ∨ position + rest.length < span.stop ∨ span.isEmpty then
      substituteFrom form render position rest others
    else if span.stop < span.start then .error (.invertedSpan span.start span.stop)
    else do
      let run := rest.take (span.start - position)
      let slice := (rest.drop (span.start - position)).take (span.stop - span.start)
      let after ← substituteFrom form render span.stop (rest.drop (span.stop - position)) others
      return form.markup run ++ render entity slice ++ after

/-- The markup of a text, with each of its entities replaced by what `render` makes of the entity
and of the characters in its span. -/
def substitute (form : TextForm) (render : Entity → List Char → List Char)
    (entities : List Entity) (text : List Char) : Except Fault (List Char) :=
  substituteFrom form render 0 text (inOrder entities)

end Entity

end PostMarkup
