import PostMarkup.Proofs.Markdown.Indentation
import PostMarkup.Proofs.Markdown.ListMark
import PostMarkup.Proofs.Markdown.Rendered
import PostMarkup.Proofs.Text.Lines

/-! # The nesting of lists

The HTML of the list that item lines form is read back with the stack of open elements: each item stands
in the entries of those items that its indentation says, and each list is numbered if the first item
directly in it is. The proof follows the list: a list reads as its entries, and an entry as its item, the
lists of the deeper items, and the entries after it.
-/

namespace PostMarkup.Markdown

open PostMarkup.Text

/-- Whether a list is numbered as the item is that came first directly in it. -/
def FollowsFirst (list : Bool × Option Item) : Prop := list.2.map Item.ordered = some list.1

/-- Whether marks are read from some open elements and the items before: afterwards the elements `after`
are open, the items `found` have been added, and each list that was closed follows its first item. -/
def Reads (opened : List OpenElement) (placed : List (Item × List Nat)) (marks : List ListMark)
    (after : List OpenElement) (found : List (Item × List Nat)) : Prop :=
  ∀ lists, ∃ closed, (∀ list ∈ closed, FollowsFirst list) ∧
    ListReading.read? ⟨opened, placed, lists⟩ marks = some ⟨after, placed ++ found, lists ++ closed⟩

variable {mark : ListMark} {left right marks : List ListMark} {ordered : Bool} {own : Option Nat}
  {opened middle after outer : List OpenElement} {item first : Item} {inner : List Outline}
  {placed found more : List (Item × List Nat)}

namespace Reads

theorem nil : Reads opened placed [] opened [] :=
  fun lists => ⟨[], by simp, by simp [ListReading.read?]⟩

theorem append (start : Reads opened placed left middle found)
    (further : Reads middle (placed ++ found) right after more) :
    Reads opened placed (left ++ right) after (found ++ more) := by
  intro lists
  obtain ⟨closed, follow, read⟩ := start lists
  obtain ⟨closed', follow', read'⟩ := further (lists ++ closed)
  refine ⟨closed ++ closed', List.forall_mem_append.mpr ⟨follow, follow'⟩, ?_⟩
  rw [ListReading.read?_append read, read', List.append_assoc, List.append_assoc]

/-- A mark that opens or closes an entry, opens a list or ends a line. -/
theorem cons (step : ∀ lists, ListReading.step? ⟨opened, placed, lists⟩ mark = some ⟨middle, placed, lists⟩)
    (further : Reads middle placed marks after found) : Reads opened placed (mark :: marks) after found := by
  intro lists
  rw [ListReading.read?, step lists, Option.bind_some]
  exact further lists

theorem lineEnd (further : Reads opened placed marks after found) :
    Reads opened placed (.lineEnd :: marks) after found :=
  cons (fun _ => rfl) further

/-- Between its tags a list holds its entries, the first of which that has an item says its kind. -/
theorem list {entries : List Entry}
    (opens : ∀ lists, ListReading.step? ⟨outer, placed, lists⟩ (.openList ordered) =
      some ⟨.list ordered none :: outer, placed, lists⟩)
    (inside : Reads (.list ordered none :: outer) placed (Entry.marksOf entries)
      (.list ordered (some first) :: outer) found)
    (follows : first.ordered = ordered) :
    Reads outer placed (Outline.mk ordered entries).marks outer found := by
  have close : Reads (.list ordered (some first) :: outer) (placed ++ found) [.closeList ordered] outer [] := by
    intro lists
    refine ⟨[(ordered, some first)], ?_, ?_⟩
    · simp [FollowsFirst, follows]
    · simp [ListReading.read?, ListReading.step?]
  have body := inside.append close
  rw [List.append_nil] at body
  rw [Outline.marks]
  exact cons opens body.lineEnd

/-- The tag that ends an entry. -/
theorem closeEntry : Reads (.entry own :: outer) placed [.closeEntry, .lineEnd] outer [] :=
  cons (fun _ => rfl) nil.lineEnd

/-- An entry with an item, which stands in the entry itself and in those around it. -/
theorem entry {earliest : Option Item}
    (inside : Reads (.entry (some placed.length) :: .list ordered (earliest.or (some item)) :: outer)
      (placed ++ [(item, placed.length :: holders outer)]) (Outline.marksOf inner)
      (.entry (some placed.length) :: .list ordered (earliest.or (some item)) :: outer) found) :
    Reads (.list ordered earliest :: outer) placed (Entry.mk (some item) inner).marks
      (.list ordered (earliest.or (some item)) :: outer) ((item, placed.length :: holders outer) :: found) := by
  have own : Reads (.entry none :: .list ordered earliest :: outer) placed [.item item]
      (.entry (some placed.length) :: .list ordered (earliest.or (some item)) :: outer)
      [(item, placed.length :: holders outer)] := by
    intro lists
    refine ⟨[], by simp, ?_⟩
    simp [ListReading.read?, ListReading.step?]
  have body := own.append (inside.append closeEntry)
  rw [List.append_nil] at body
  rw [Entry.marks]
  exact cons (fun _ => rfl) body

/-- An entry without an item. -/
theorem orphans
    (inside : Reads (.entry none :: .list ordered none :: outer) placed (Outline.marksOf inner)
      (.entry none :: .list ordered none :: outer) found) :
    Reads (.list ordered none :: outer) placed (Entry.mk none inner).marks (.list ordered none :: outer) found := by
  have body := inside.append closeEntry
  rw [List.append_nil] at body
  rw [Entry.marks]
  exact cons (fun _ => rfl) body

end Reads

/-- Whether the lists that items form are read with the items nested by their indentation. -/
private def OutlinesNest (items : List Item) : Prop :=
  ∀ own outer placed, Reads (.entry own :: outer) placed (Outline.marksOf (outlines items)) (.entry own :: outer)
    (within (holders (.entry own :: outer)) (nestedFrom placed.length items))

/-- Whether the entries that items form at the level of the first are read so. -/
private def EntriesNest (item : Item) (rest : List Item) : Prop :=
  (∀ other ∈ rest, item.indent ≤ other.indent) → ∀ ordered earliest outer placed,
    Reads (.list ordered earliest :: outer) placed (Entry.marksOf (entries item rest))
      (.list ordered (earliest.or (some item)) :: outer)
      (within (holders outer) (nestedFrom placed.length (item :: rest)))

/-- The first list takes the items down to its level, and the further lists those after them. -/
private theorem outlinesNest_cons {rest : List Item}
    (own : EntriesNest first (rest.takeWhile fun item => first.indent ≤ item.indent))
    (further : OutlinesNest (rest.dropWhile fun item => first.indent ≤ item.indent)) :
    OutlinesNest (first :: rest) := by
  intro entry outer placed
  have deep : ∀ item ∈ rest.takeWhile fun item => first.indent ≤ item.indent, first.indent ≤ item.indent := by
    intro item member
    simpa using List.all_eq_true.mp List.all_takeWhile item member
  have start : Reads (.entry entry :: outer) placed
      (Outline.mk first.ordered (entries first (rest.takeWhile fun item => first.indent ≤ item.indent))).marks
      (.entry entry :: outer) (within (holders (.entry entry :: outer))
        (nestedFrom placed.length (first :: rest.takeWhile fun item => first.indent ≤ item.indent))) :=
    .list (fun _ => rfl) (own deep first.ordered none (.entry entry :: outer) placed) rfl
  have later := further entry outer (placed ++ within (holders (.entry entry :: outer))
    (nestedFrom placed.length (first :: rest.takeWhile fun item => first.indent ≤ item.indent)))
  rw [List.length_append, length_within, length_nestedFrom] at later
  have together := start.append later.lineEnd
  rw [← within_append, ← nestedFrom_append (ends_first first rest), List.cons_append,
    List.takeWhile_append_dropWhile] at together
  rw [outlines, Outline.marksOf]
  exact together.lineEnd

/-- The deeper items after an item form the lists in its entry, and the others the entries after it. -/
private theorem entriesNest_cons {rest : List Item} (inside : OutlinesNest (deeper item.indent rest))
    (further : ∀ next others, rest.dropWhile (fun other => item.indent < other.indent) = next :: others →
      EntriesNest next others) :
    EntriesNest item rest := by
  intro least ordered earliest outer placed
  have start : Reads (.list ordered earliest :: outer) placed
      (Entry.mk (some item) (outlines (deeper item.indent rest))).marks
      (.list ordered (earliest.or (some item)) :: outer) ((item, placed.length :: holders outer) ::
        within (placed.length :: holders outer) (nestedFrom (placed.length + 1) (deeper item.indent rest))) := by
    have body := inside (some placed.length) (.list ordered (earliest.or (some item)) :: outer)
      (placed ++ [(item, placed.length :: holders outer)])
    rw [List.length_append, List.length_singleton] at body
    exact .entry (by simpa using body)
  rw [entries, Entry.marksOf, nestedFrom_cons, within_cons, within_append, within_within, ← List.cons_append]
  refine start.append ?_
  split
  · rename_i done
    rw [done]
    exact .nil
  · rename_i next others more
    -- The list keeps the item that came first in it, whatever entries follow.
    have kept : (earliest.or (some item)).or (some next) = earliest.or (some item) := by
      cases earliest <;> rfl
    have count : placed.length + ((deeper item.indent rest).length + 1) =
        placed.length + 1 + (deeper item.indent rest).length := by omega
    have later := further next others more (least_of_dropWhile least more) ordered (earliest.or (some item)) outer
      (placed ++ (item, placed.length :: holders outer) ::
        within (placed.length :: holders outer) (nestedFrom (placed.length + 1) (deeper item.indent rest)))
    rw [kept, List.length_append, List.length_cons, length_within, length_nestedFrom, count] at later
    rw [more]
    exact later

/-- Lists and entries are read by the recursion that forms them. -/
private theorem reads_together :
    (∀ items, OutlinesNest items) ∧ ∀ item rest, EntriesNest item rest := by
  have nothing : OutlinesNest [] := fun _ _ _ => by
    rw [outlines]
    exact .nil
  exact ⟨
    outlines.induct OutlinesNest EntriesNest nothing (fun _ _ => outlinesNest_cons) (fun _ _ => entriesNest_cons),
    entries.induct OutlinesNest EntriesNest nothing (fun _ _ => outlinesNest_cons) (fun _ _ => entriesNest_cons)⟩

/-- Items deeper than the level of a list that come first in it form an entry without an item. -/
private theorem reads_orphans (items : List Item) :
    Reads [.list ordered none] [] (Entry.marksOf (if items.isEmpty then [] else [.mk none (outlines items)]))
      [.list ordered none] (nestedFrom 0 items) := by
  split
  · rename_i none
    rw [List.isEmpty_iff.mp none]
    exact .nil
  · have inside := reads_together.1 items none [.list ordered none] []
    rw [Entry.marksOf, Entry.marksOf, List.append_nil]
    exact .orphans (by simpa using inside)

/-- The list that items form is read with the items nested by their indentation. -/
theorem reads_ofItems? {items : List Item} {outline : Outline} (formed : Outline.ofItems? items = some outline) :
    Reads [] [] outline.marks [] (nestedFrom 0 items) := by
  obtain ⟨level, least, rfl⟩ := Option.map_eq_some_iff.mp formed
  obtain ⟨attained, bound⟩ := List.min?_eq_some_iff.mp least
  have parts : deeper level items ++ items.dropWhile (fun item => level < item.indent) = items :=
    List.takeWhile_append_dropWhile
  have deep : ∀ item ∈ deeper level items, level < item.indent := by
    intro item member
    simpa using List.all_eq_true.mp List.all_takeWhile item member
  have later : items.drop (deeper level items).length = items.dropWhile fun item => level < item.indent :=
    drop_takeWhile _ items
  simp only [later]
  split
  · rename_i first rest shape
    have ownLevel : first.indent ≤ level := by
      simpa using not_of_head?_dropWhile (Option.mem_def.mpr (congrArg List.head? shape))
    rw [shape] at parts
    have ends : Ends (deeper level items) (first :: rest) := by
      intro other member item inside
      cases member
      exact Nat.le_trans ownLevel (Nat.le_of_lt (deep item inside))
    have least : ∀ other ∈ rest, first.indent ≤ other.indent := by
      intro other member
      have inItems : other ∈ items := by
        rw [← parts]
        exact List.mem_append_right _ (List.mem_cons_of_mem _ member)
      exact Nat.le_trans ownLevel (bound other.indent (List.mem_map_of_mem inItems))
    have own := reads_together.2 first rest least first.ordered none [] (nestedFrom 0 (deeper level items))
    rw [length_nestedFrom, holders_nil, within_nil, Option.none_or] at own
    have body := (reads_orphans (deeper level items)).append own
    have split := nestedFrom_append ends 0
    rw [Nat.zero_add, parts] at split
    rw [← Entry.marksOf_append, ← split] at body
    exact .list (fun _ => rfl) body rfl
  · rename_i done
    rw [done, List.append_nil] at parts
    obtain ⟨item, inside, same⟩ := List.mem_map.mp attained
    rw [← parts] at inside
    have above := deep item inside
    omega

/-- Any items form a list. Its markup is read with each item once and in its place, an item in the entry of
another exactly if it and all items between them are indented more, and each list numbered as the first
item directly in it. Where the items are lines, the whole HTML is well-formed. -/
theorem ofItems?_nested (items : List Item) (nonempty : items ≠ []) :
    ∃ outline, Outline.ofItems? items = some outline ∧
      outline.html = outline.marks.flatMap ListMark.html ∧
      (∃ placed lists, ListReading.read? ⟨[], [], []⟩ outline.marks = some ⟨[], placed, lists⟩ ∧
        placed.map Prod.fst = items ∧
        (∀ outer inner : Fin items.length, outer < inner →
          ∃ holders, placed[inner.val]? = some (items.get inner, holders) ∧
            (outer.val ∈ holders ↔ ∀ between : Fin items.length, outer < between → between ≤ inner →
              (items.get outer).indent < (items.get between).indent)) ∧
        ∀ list ∈ lists, FollowsFirst list) ∧
      ((∀ item ∈ items, '\n' ∉ item.content) → Fragment documentModel [] outline.html) := by
  obtain ⟨outline, formed⟩ : ∃ outline, Outline.ofItems? items = some outline := by
    cases items with
    | nil => exact absurd rfl nonempty
    | cons first rest => exact ⟨_, rfl⟩
  obtain ⟨lists, follow, read⟩ := reads_ofItems? formed []
  refine ⟨outline, formed, html_outline outline,
    ⟨nestedFrom 0 items, lists, read, map_fst_nestedFrom 0 items, ?_, follow⟩, ?_⟩
  · intro outer inner later
    obtain ⟨holders, found, stands⟩ := mem_nestedFrom_iff 0 items later inner.isLt
    refine ⟨holders, found, ?_⟩
    rw [← Nat.zero_add outer.val, stands]
    constructor
    · intro deeper between after upTo
      exact deeper between.val after upTo
    · intro deeper between after upTo
      exact deeper ⟨between, Nat.lt_of_le_of_lt upTo inner.isLt⟩ after upTo
  · intro lines
    rw [← items_of_ofItems? formed] at lines
    have flows : InFlow [] := rfl
    exact (rendered_outline outline lines (blocksFit_of_inFlow flows) List.not_mem_nil).nested

/-- Items whose first one is indented more than the second, and with a level that no item opened. -/
theorem ofItems?_nested_orphan :
    let items : List Item := [⟨2, false, ['a'], false⟩, ⟨0, true, ['b'], false⟩, ⟨4, false, ['c'], false⟩,
      ⟨2, true, ['d'], true⟩, ⟨0, false, ['e'], false⟩]
    items ≠ [] ∧ ∃ outline placed lists holders, Outline.ofItems? items = some outline ∧
      ListReading.read? ⟨[], [], []⟩ outline.marks = some ⟨[], placed, lists⟩ ∧
      placed[3]? = some (⟨2, true, ['d'], true⟩, holders) ∧ 1 ∈ holders ∧ 2 ∉ holders ∧
      outline.html = ("<ol>\n<li>\n<ul>\n<li>a</li>\n</ul>\n</li>\n<li>b\n<ul>\n<li>c</li>\n</ul>\n\n".toList ++
        "<ol>\n<li>d<br /></li>\n</ol>\n</li>\n<li>e</li>\n</ol>".toList) ∧
      Fragment documentModel [] outline.html := by
  intro items
  have nonempty : items ≠ [] := by simp [items]
  obtain ⟨outline, formed, _, ⟨placed, lists, read, _, nested, _⟩, wellFormed⟩ := ofItems?_nested items nonempty
  obtain ⟨holders, found, inside⟩ := nested ⟨1, by decide⟩ ⟨3, by decide⟩ (by decide)
  obtain ⟨holders', found', outside⟩ := nested ⟨2, by decide⟩ ⟨3, by decide⟩ (by decide)
  obtain rfl : holders = holders' := by simpa [found] using found'
  have shape : Outline.ofItems? items = some (.mk true [.mk none [.mk false [.mk (some ⟨2, false, ['a'], false⟩) []]],
      .mk (some ⟨0, true, ['b'], false⟩) [.mk false [.mk (some ⟨4, false, ['c'], false⟩) []],
        .mk true [.mk (some ⟨2, true, ['d'], true⟩) []]], .mk (some ⟨0, false, ['e'], false⟩) []]) := by cbv
  obtain rfl := Option.some.inj (formed.symm.trans shape)
  refine ⟨nonempty, _, placed, lists, holders, formed, read, found, inside.mpr (by decide), ?_,
    by decide +kernel, wellFormed (by decide)⟩
  intro member
  exact absurd (outside.mp member ⟨3, by decide⟩ (by decide) (by decide)) (by decide)

end PostMarkup.Markdown
