import PostMarkup.Markdown.Outline

/-! # Items by their indentation

Indentation alone says which items stand in the entry of an item: those after it, as long as they are
indented more. `nestedFrom` lists the items of some lines in this way, and `mem_nestedFrom_iff` states it
of any two of them.
-/

namespace PostMarkup.Markdown

variable {items front back : List Item} {number : Nat} {outer : List Nat}

/-- Items that stand in the entries of further items, with the numbers of these added. -/
def within (outer : List Nat) (placed : List (Item × List Nat)) : List (Item × List Nat) :=
  placed.map fun place => (place.1, place.2 ++ outer)

@[simp] theorem within_nil (placed : List (Item × List Nat)) : within [] placed = placed := by
  simp [within]

@[simp] theorem length_within (placed : List (Item × List Nat)) : (within outer placed).length = placed.length :=
  List.length_map ..

theorem within_cons (place : Item × List Nat) (rest : List (Item × List Nat)) :
    within outer (place :: rest) = (place.1, place.2 ++ outer) :: within outer rest := rfl

theorem within_append (left right : List (Item × List Nat)) :
    within outer (left ++ right) = within outer left ++ within outer right := List.map_append

theorem within_within (inner outer : List Nat) (placed : List (Item × List Nat)) :
    within outer (within inner placed) = within (inner ++ outer) placed := by
  simp [within]

/-- Items in the order of their lines, numbered from `number` on, each with the numbers of the items in
whose entries it stands: an item stands in its own entry, and so do the deeper items that follow it. -/
def nestedFrom (number : Nat) : List Item → List (Item × List Nat)
  | [] => []
  | item :: rest =>
    let later := nestedFrom (number + 1) rest
    let inside := (deeper item.indent rest).length
    (item, [number]) :: (within [number] (later.take inside) ++ later.drop inside)

@[simp] theorem length_nestedFrom (number : Nat) (items : List Item) :
    (nestedFrom number items).length = items.length := by
  induction items generalizing number with
  | nil => rfl
  | cons item rest ih =>
    simp only [nestedFrom, within, List.length_cons, List.length_append, List.length_map, List.length_take,
      List.length_drop, ih]
    omega

theorem map_fst_nestedFrom (number : Nat) (items : List Item) : (nestedFrom number items).map Prod.fst = items := by
  induction items generalizing number with
  | nil => rfl
  | cons item rest ih =>
    simp only [nestedFrom, within, List.map_cons, List.map_append, List.map_map, Function.comp_def]
    rw [← List.map_append, List.take_append_drop, ih]

/-- Whether the items `back` end the entries of all items before them. -/
def Ends (front back : List Item) : Prop := ∀ next ∈ back.head?, ∀ item ∈ front, next.indent ≤ item.indent

theorem not_of_head?_dropWhile {continues : Item → Bool} {next : Item}
    (member : next ∈ (items.dropWhile continues).head?) : continues next = false := by
  have stop := List.head?_dropWhile_not continues items
  rw [Option.mem_def.mp member] at stop
  simpa using stop

/-- Items up to one that is indented no more than any of them. -/
theorem ends_takeWhile {continues : Item → Bool}
    (shallower : ∀ item next, continues item → continues next = false → next.indent ≤ item.indent)
    (items : List Item) : Ends (items.takeWhile continues) (items.dropWhile continues) :=
  fun next member item inside =>
    shallower item next (List.all_eq_true.mp List.all_takeWhile item inside) (not_of_head?_dropWhile member)

/-- The items of the list that starts at an item end where one is indented less. -/
theorem ends_first (first : Item) (rest : List Item) :
    Ends (first :: rest.takeWhile fun item => first.indent ≤ item.indent)
      (rest.dropWhile fun item => first.indent ≤ item.indent) := by
  intro next member item inside
  have shallow : next.indent < first.indent := by simpa using not_of_head?_dropWhile member
  rcases List.mem_cons.mp inside with rfl | inside
  · exact Nat.le_of_lt shallow
  · have deep : first.indent ≤ item.indent := by simpa using List.all_eq_true.mp List.all_takeWhile item inside
    exact Nat.le_of_lt (Nat.lt_of_lt_of_le shallow deep)

/-- The item that ends the entry of another is at the same level if no item is indented less. -/
theorem least_of_dropWhile {item next : Item} {rest others : List Item}
    (least : ∀ other ∈ rest, item.indent ≤ other.indent)
    (more : rest.dropWhile (fun other => item.indent < other.indent) = next :: others) :
    ∀ other ∈ others, next.indent ≤ other.indent := by
  intro other member
  have shallow : next.indent ≤ item.indent := by
    simpa using not_of_head?_dropWhile (Option.mem_def.mpr (congrArg List.head? more))
  have inRest : other ∈ rest := by
    refine (List.dropWhile_sublist fun other : Item => item.indent < other.indent).subset ?_
    rw [more]
    exact List.mem_cons_of_mem next member
  exact Nat.le_trans shallow (least other inRest)

theorem deeper_append (front back : List Item) (level : Nat) (ends : ∀ next ∈ back.head?, next.indent ≤ level) :
    deeper level (front ++ back) = deeper level front := by
  induction front with
  | nil =>
    cases back with
    | nil => rfl
    | cons next others =>
      have shallow : ¬level < next.indent := Nat.not_lt.mpr (ends next rfl)
      simp [deeper, shallow]
  | cons item rest ih =>
    simp only [deeper, List.cons_append, List.takeWhile_cons] at ih ⊢
    rw [ih]

theorem length_deeper_le (level : Nat) (items : List Item) : (deeper level items).length ≤ items.length :=
  (List.takeWhile_sublist _).length_le

/-- Items that end the entries of those before them are placed as if they stood alone. -/
theorem nestedFrom_append (ends : Ends front back) (number : Nat) :
    nestedFrom number (front ++ back) = nestedFrom number front ++ nestedFrom (number + front.length) back := by
  induction front generalizing number with
  | nil => rfl
  | cons item rest ih =>
    have ends' : Ends rest back := fun next member other inside =>
      ends next member other (List.mem_cons_of_mem _ inside)
    have shallow : ∀ next ∈ back.head?, next.indent ≤ item.indent := fun next member =>
      ends next member item List.mem_cons_self
    have short : (deeper item.indent rest).length ≤ (nestedFrom (number + 1) rest).length := by
      rw [length_nestedFrom]
      exact length_deeper_le _ _
    have count : number + 1 + rest.length = number + (item :: rest).length := by
      simp only [List.length_cons]
      omega
    simp only [List.cons_append, nestedFrom]
    rw [deeper_append rest back item.indent shallow, ih ends', List.take_append_of_le_length short,
      List.drop_append_of_le_length short, List.append_assoc, count]

/-- The deeper items after an item stand in its entry, and the others as if they stood alone. -/
theorem nestedFrom_cons (number : Nat) (item : Item) (rest : List Item) :
    nestedFrom number (item :: rest) = (item, [number]) ::
      (within [number] (nestedFrom (number + 1) (deeper item.indent rest)) ++
        nestedFrom (number + 1 + (deeper item.indent rest).length)
          (rest.dropWhile fun other => item.indent < other.indent)) := by
  have parts : deeper item.indent rest ++ rest.dropWhile (fun other => item.indent < other.indent) = rest :=
    List.takeWhile_append_dropWhile
  have ends : Ends (deeper item.indent rest) (rest.dropWhile fun other => item.indent < other.indent) := by
    refine ends_takeWhile ?_ rest
    intro inner next deep shallow
    simp only [decide_eq_true_eq, decide_eq_false_iff_not] at deep shallow
    omega
  have split := nestedFrom_append ends (number + 1)
  rw [parts] at split
  have length : (nestedFrom (number + 1) (deeper item.indent rest)).length = (deeper item.indent rest).length :=
    length_nestedFrom _ _
  simp only [nestedFrom]
  rw [split, List.take_left' length, List.drop_left' length]

/-- An item after a first one stands where it stands without it, and in the entry of the first as long as
the items are deeper. -/
theorem getElem?_nestedFrom_succ (number : Nat) (item : Item) (rest : List Item) (index : Nat) :
    (nestedFrom number (item :: rest))[index + 1]? = (nestedFrom (number + 1) rest)[index]?.map fun place =>
      (place.1, if index < (deeper item.indent rest).length then place.2 ++ [number] else place.2) := by
  have short : (deeper item.indent rest).length ≤ (nestedFrom (number + 1) rest).length := by
    rw [length_nestedFrom]
    exact length_deeper_le _ _
  have width : (within [number] ((nestedFrom (number + 1) rest).take (deeper item.indent rest).length)).length =
      (deeper item.indent rest).length := by
    rw [within, List.length_map, List.length_take, Nat.min_eq_left short]
  simp only [nestedFrom, List.getElem?_cons_succ]
  by_cases inside : index < (deeper item.indent rest).length
  · rw [List.getElem?_append_left (by rwa [width]), within, List.getElem?_map, List.getElem?_take_of_lt inside]
    simp [inside]
  · have same : (deeper item.indent rest).length + (index - (deeper item.indent rest).length) = index := by omega
    rw [List.getElem?_append_right (by rw [width]; omega), width, List.getElem?_drop, same]
    simp [inside]

/-- Items are numbered from the given number on. -/
theorem le_of_mem_nestedFrom {place : Item × List Nat} (member : place ∈ nestedFrom number items) :
    ∀ holder ∈ place.2, number ≤ holder := by
  induction items generalizing number place with
  | nil => cases member
  | cons item rest ih =>
    obtain ⟨index, found⟩ := List.mem_iff_getElem?.mp member
    cases index with
    | zero =>
      cases found
      simp
    | succ index =>
      rw [getElem?_nestedFrom_succ] at found
      obtain ⟨place', found', rfl⟩ := Option.map_eq_some_iff.mp found
      intro holder inside
      have later := ih (List.mem_of_getElem? found') holder
      split at inside
      · rcases List.mem_append.mp inside with inside | inside
        · exact Nat.le_of_succ_le (later inside)
        · exact Nat.le_of_eq (List.mem_singleton.mp inside).symm
      · exact Nat.le_of_succ_le (later inside)

/-- How far the deeper items reach. -/
theorem lt_length_deeper_iff (level : Nat) (items : List Item) {index : Nat} (inside : index < items.length) :
    index < (deeper level items).length ↔ ∀ (other : Nat) (_ : other ≤ index), level < items[other].indent := by
  induction items generalizing index with
  | nil => cases inside
  | cons first rest ih =>
    by_cases deep : level < first.indent
    · have goesOn : deeper level (first :: rest) = first :: deeper level rest := by simp [deeper, deep]
      rw [goesOn, List.length_cons]
      cases index with
      | zero =>
        refine iff_of_true (Nat.succ_pos _) ?_
        intro other upTo
        cases Nat.le_zero.mp upTo
        exact deep
      | succ index =>
        rw [Nat.add_lt_add_iff_right, ih (by simpa using inside)]
        constructor
        · intro deeper other upTo
          cases other with
          | zero => exact deep
          | succ other => exact deeper other (Nat.le_of_succ_le_succ upTo)
        · intro deeper other upTo
          exact deeper (other + 1) (Nat.succ_le_succ upTo)
    · have stops : deeper level (first :: rest) = [] := by simp [deeper, deep]
      rw [stops]
      exact iff_of_false (Nat.not_lt_zero index) fun deeper => deep (deeper 0 (Nat.zero_le index))

/-- An item after another stands in its entry exactly if it and all items between them are indented more. -/
theorem mem_nestedFrom_iff (number : Nat) (items : List Item) {outer inner : Nat} (later : outer < inner)
    (inside : inner < items.length) :
    ∃ holders, (nestedFrom number items)[inner]? = some (items[inner], holders) ∧
      (number + outer ∈ holders ↔ ∀ (between : Nat) (_ : outer < between) (_ : between ≤ inner),
        items[outer].indent < items[between].indent) := by
  induction items generalizing number outer inner with
  | nil => cases inside
  | cons first rest ih =>
    cases inner with
    | zero => cases later
    | succ inner =>
    have inside' : inner < rest.length := by simpa using inside
    rw [getElem?_nestedFrom_succ]
    cases outer with
    | zero =>
      have found : (nestedFrom (number + 1) rest)[inner]?.map Prod.fst = some rest[inner] := by
        rw [← List.getElem?_map, map_fst_nestedFrom, List.getElem?_eq_getElem inside']
      obtain ⟨place, found', same⟩ := Option.map_eq_some_iff.mp found
      have later : number ∉ place.2 := by
        intro member
        have bound := le_of_mem_nestedFrom (List.mem_of_getElem? found') number member
        omega
      have stands : (number ∈ if inner < (deeper first.indent rest).length then place.2 ++ [number] else place.2) ↔
          inner < (deeper first.indent rest).length := by
        split <;> simp_all
      rw [found', Option.map_some, same]
      refine ⟨_, rfl, ?_⟩
      rw [Nat.add_zero, stands, lt_length_deeper_iff first.indent rest inside']
      constructor
      · intro deeper between after upTo
        cases between with
        | zero => cases after
        | succ between => exact deeper between (Nat.le_of_succ_le_succ upTo)
      · intro deeper between upTo
        exact deeper (between + 1) (Nat.succ_pos between) (Nat.succ_le_succ upTo)
    | succ outer =>
      obtain ⟨holders, found, stands⟩ := ih (number + 1) (Nat.lt_of_succ_lt_succ later) inside'
      have shift : number + (outer + 1) = number + 1 + outer := by omega
      have apart : number + 1 + outer ≠ number := by omega
      have kept : (number + 1 + outer ∈
          if inner < (deeper first.indent rest).length then holders ++ [number] else holders) ↔
          number + 1 + outer ∈ holders := by
        split <;> simp [apart]
      rw [found, shift]
      refine ⟨_, rfl, ?_⟩
      rw [kept, stands]
      constructor
      · intro deeper between after upTo
        cases between with
        | zero => cases after
        | succ between => exact deeper between (Nat.lt_of_succ_lt_succ after) (Nat.le_of_succ_le_succ upTo)
      · intro deeper between after upTo
        exact deeper (between + 1) (Nat.succ_lt_succ after) (Nat.succ_le_succ upTo)

end PostMarkup.Markdown
