import PostMarkup.Markdown.Outline

/-! # Reading the markup of lists

The HTML of a list is a sequence of marks: the tags of lists and entries, the items, and line ends. A
reader goes over the marks with the elements that are open. It stops at a mark that may not stand where
it does, and it notes of each item in whose entries it stands and of each list which item came first
directly in it.
-/

namespace PostMarkup.Markdown

/-- A part of the HTML of a list. -/
inductive ListMark where
  | openList (ordered : Bool)
  | closeList (ordered : Bool)
  | openEntry
  | closeEntry
  | item (line : Item)
  | lineEnd

def ListMark.html : ListMark → List Char
  | openList ordered => if ordered then "<ol>".toList else "<ul>".toList
  | closeList ordered => if ordered then "</ol>".toList else "</ul>".toList
  | openEntry => "<li>".toList
  | closeEntry => "</li>".toList
  | item line => line.html
  | lineEnd => ['\n']

mutual

def Outline.marks : Outline → List ListMark
  | .mk ordered entries => .openList ordered :: .lineEnd :: (Entry.marksOf entries ++ [.closeList ordered])

def Entry.marksOf : List Entry → List ListMark
  | [] => []
  | entry :: rest => entry.marks ++ Entry.marksOf rest

def Entry.marks : Entry → List ListMark
  | .mk item inner => .openEntry :: (item.toList.map .item ++ (Outline.marksOf inner ++ [.closeEntry, .lineEnd]))

def Outline.marksOf : List Outline → List ListMark
  | [] => []
  | outline :: rest => .lineEnd :: (outline.marks ++ .lineEnd :: Outline.marksOf rest)

end

theorem Entry.marksOf_append (left right : List Entry) :
    Entry.marksOf (left ++ right) = Entry.marksOf left ++ Entry.marksOf right := by
  induction left with
  | nil => rfl
  | cons entry rest ih => rw [List.cons_append, marksOf, marksOf, ih, List.append_assoc]

mutual

/-- The HTML of a list is that of its marks. -/
theorem html_outline (outline : Outline) : outline.html = outline.marks.flatMap ListMark.html := by
  match outline with
  | .mk ordered entries =>
    rw [Outline.html, Outline.marks, html_entries entries]
    cases ordered <;> simp [writeElement, ListMark.html]

theorem html_entries (entries : List Entry) :
    Entry.htmlOf entries = (Entry.marksOf entries).flatMap ListMark.html := by
  match entries with
  | [] => rfl
  | entry :: rest =>
    rw [Entry.htmlOf, Entry.marksOf, html_entry entry, html_entries rest, List.flatMap_append]

theorem html_entry (entry : Entry) : entry.html = entry.marks.flatMap ListMark.html := by
  match entry with
  | .mk item inner =>
    rw [Entry.html, Entry.marks, html_outlines inner]
    cases item <;> simp [ListMark.html]

theorem html_outlines (outlines : List Outline) :
    Outline.htmlOf outlines = (Outline.marksOf outlines).flatMap ListMark.html := by
  match outlines with
  | [] => rfl
  | outline :: rest =>
    rw [Outline.htmlOf, Outline.marksOf, html_outline outline, html_outlines rest]
    simp [ListMark.html]

end

inductive OpenElement where
  /-- A list, and the item that came first directly in it. -/
  | list (ordered : Bool) (first : Option Item)
  /-- An entry, and the number of the item that stands directly in it. -/
  | entry (own : Option Nat)

/-- The number of the item that stands directly in an entry. -/
def OpenElement.own? : OpenElement → Option Nat
  | list _ _ => none
  | entry own => own

/-- The numbers of the items whose entries are open. -/
def holders (opened : List OpenElement) : List Nat := opened.filterMap OpenElement.own?

@[simp] theorem holders_nil : holders [] = [] := rfl

@[simp] theorem holders_list (ordered : Bool) (first : Option Item) (outer : List OpenElement) :
    holders (.list ordered first :: outer) = holders outer := by
  simp [holders, List.filterMap_cons, OpenElement.own?]

@[simp] theorem holders_entry (own : Option Nat) (outer : List OpenElement) :
    holders (.entry own :: outer) = own.toList ++ holders outer := by
  cases own <;> simp [holders, List.filterMap_cons, OpenElement.own?]

structure ListReading where
  /-- The elements that are open, innermost first. -/
  opened : List OpenElement
  /-- The items in their order, each with the numbers of the items in whose entries it stands. -/
  items : List (Item × List Nat)
  /-- The kinds of the lists that are closed, each with the item that came first directly in it. -/
  lists : List (Bool × Option Item)

namespace ListReading

/-- Reading one mark. A list may stand at the top and in an entry, an entry in a list, and no more than one
item directly in an entry; what is closed is the innermost element. -/
def step? (reading : ListReading) : ListMark → Option ListReading
  | .lineEnd => some reading
  | .openList ordered =>
    match reading.opened with
    | .list _ _ :: _ => none
    | opened => some { reading with opened := .list ordered none :: opened }
  | .closeList ordered =>
    match reading.opened with
    | .list kind first :: outer =>
      if kind = ordered then some { reading with opened := outer, lists := reading.lists ++ [(kind, first)] } else none
    | _ => none
  | .openEntry =>
    match reading.opened with
    | .list ordered first :: outer => some { reading with opened := .entry none :: .list ordered first :: outer }
    | _ => none
  | .closeEntry =>
    match reading.opened with
    | .entry _ :: outer => some { reading with opened := outer }
    | _ => none
  | .item line =>
    match reading.opened with
    | .entry none :: .list ordered first :: outer =>
      let opened := .entry (some reading.items.length) :: .list ordered (first.or (some line)) :: outer
      some { reading with opened, items := reading.items ++ [(line, holders opened)] }
    | _ => none

def read? (reading : ListReading) : List ListMark → Option ListReading
  | [] => some reading
  | mark :: rest => (reading.step? mark).bind fun next => next.read? rest

variable {reading middle : ListReading} {left right : List ListMark}

theorem read?_append (read : reading.read? left = some middle) :
    reading.read? (left ++ right) = middle.read? right := by
  induction left generalizing reading with
  | nil =>
    cases read
    rfl
  | cons mark rest ih =>
    obtain ⟨next, step, later⟩ := Option.bind_eq_some_iff.mp read
    rw [List.cons_append, read?, step, Option.bind_some, ih later]

end ListReading

end PostMarkup.Markdown
