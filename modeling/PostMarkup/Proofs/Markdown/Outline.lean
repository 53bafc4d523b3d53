import PostMarkup.Markdown.Outline

/-! # The items of a list

Reading a list entry by entry, each item before the items of the lists inside it, gives back the
item lines that it was made of, in their order.
-/

namespace PostMarkup.Markdown

mutual

/-- The items of a list, each before those inside it. -/
def Outline.items : Outline → List Item
  | .mk _ entries => Entry.itemsOf entries

def Entry.itemsOf : List Entry → List Item
  | [] => []
  | entry :: rest => entry.items ++ Entry.itemsOf rest

def Entry.items : Entry → List Item
  | .mk item inner => item.toList ++ Outline.itemsOf inner

def Outline.itemsOf : List Outline → List Item
  | [] => []
  | outline :: rest => outline.items ++ Outline.itemsOf rest

end

@[simp] theorem Entry.itemsOf_append (left right : List Entry) :
    Entry.itemsOf (left ++ right) = Entry.itemsOf left ++ Entry.itemsOf right := by
  induction left with
  | nil => simp [Entry.itemsOf]
  | cons entry rest ih => simp [Entry.itemsOf, ih]

private theorem items_together :
    (∀ items, Outline.itemsOf (outlines items) = items) ∧
      ∀ item rest, Entry.itemsOf (entries item rest) = item :: rest := by
  have nothing : Outline.itemsOf (outlines []) = [] := by simp [outlines, Outline.itemsOf]
  have listed (first : Item) (rest : List Item)
      (own : Entry.itemsOf (entries first (rest.takeWhile fun item => first.indent ≤ item.indent)) =
        first :: rest.takeWhile fun item => first.indent ≤ item.indent)
      (further : Outline.itemsOf (outlines (rest.dropWhile fun item => first.indent ≤ item.indent)) =
        rest.dropWhile fun item => first.indent ≤ item.indent) :
      Outline.itemsOf (outlines (first :: rest)) = first :: rest := by
    rw [outlines, Outline.itemsOf, Outline.items, own, further, List.cons_append,
      List.takeWhile_append_dropWhile]
  have entered (item : Item) (rest : List Item)
      (inner : Outline.itemsOf (outlines (deeper item.indent rest)) = deeper item.indent rest)
      (further : ∀ next others, rest.dropWhile (fun other => item.indent < other.indent) =
        next :: others → Entry.itemsOf (entries next others) = next :: others) :
      Entry.itemsOf (entries item rest) = item :: rest := by
    have parts : deeper item.indent rest ++ rest.dropWhile (fun other => item.indent < other.indent) =
        rest := List.takeWhile_append_dropWhile
    rw [entries, Entry.itemsOf, Entry.items, inner]
    split
    · rename_i done
      rw [done, List.append_nil] at parts
      simp [Entry.itemsOf, parts]
    · rename_i next others more
      rw [more] at parts
      simp [further next others more, parts]
  exact ⟨outlines.induct (fun items => Outline.itemsOf (outlines items) = items) _ nothing listed
      entered,
    entries.induct (fun items => Outline.itemsOf (outlines items) = items) _ nothing listed entered⟩

/-- The items of lists are those they are made of. -/
theorem itemsOf_outlines (items : List Item) : Outline.itemsOf (outlines items) = items :=
  items_together.1 items

theorem itemsOf_entries (item : Item) (rest : List Item) :
    Entry.itemsOf (entries item rest) = item :: rest :=
  items_together.2 item rest

/-- A list holds the items that form it. -/
theorem items_of_ofItems? {items : List Item} {outline : Outline}
    (formed : Outline.ofItems? items = some outline) : outline.items = items := by
  obtain ⟨level, _, rfl⟩ := Option.map_eq_some_iff.mp formed
  have parts : deeper level items ++ items.drop (deeper level items).length = items :=
    List.prefix_iff_eq_append.mp (List.takeWhile_prefix _)
  have orphaned : Entry.itemsOf (if (deeper level items).isEmpty then []
      else [.mk none (outlines (deeper level items))]) = deeper level items := by
    split
    · rename_i none
      simp [Entry.itemsOf, List.isEmpty_iff.mp none]
    · simp [Entry.itemsOf, Entry.items, itemsOf_outlines]
  dsimp only
  split
  · rename_i first rest shape
    rw [Outline.items, Entry.itemsOf_append, orphaned, itemsOf_entries, ← shape, parts]
  · rename_i done
    rw [Outline.items, orphaned]
    simpa [done] using parts

end PostMarkup.Markdown
