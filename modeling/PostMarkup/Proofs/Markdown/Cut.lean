import PostMarkup.Markdown.Inline.Reader
import PostMarkup.Proofs.Markup.Written

/-! # Reading next to a blank

No delimiter and no scheme of an address holds a blank, and a delimiter asks for no more than the
character after it. So where a text is cut next to a blank, the delimiters and addresses before the
cut are the same whatever the text after it is.
-/

namespace PostMarkup

open PostMarkup.Text

/-- A blank is no letter or number. -/
theorem Unicode.not_isAlphanumeric_of_isBlank {c : Char} (blank : isBlank c = true) :
    isAlphanumeric c = false := by
  by_cases ascii : c.toNat < 0x80
  · rw [isAlphanumeric_of_ascii ascii, not_isAlphanum_of_isBlank blank]
  · have notSpace : c ≠ ' ' := by
      rintro rfl
      exact ascii (by decide)
    simp only [isBlank, notSpace, decide_false, Bool.false_or, Bool.or_eq_true, Bool.and_eq_true,
      decide_eq_true_eq] at blank
    have codes : ∀ code ∈ [0x85, 0xa0, 0x1680, 0x2028, 0x2029, 0x202f, 0x205f, 0x3000] ++ List.range' 0x2000 11,
        alphabeticRanges.holds code = false ∧ numericRanges.holds code = false := by decide +kernel
    obtain ⟨alphabetic, numeric⟩ := codes c.toNat (by
      simp only [List.mem_append, List.mem_cons, List.not_mem_nil, List.mem_range'_1]
      omega)
    simp [isAlphanumeric, isAlphabetic, isNumeric, ascii, alphabetic, numeric]

namespace Markdown

open PostMarkup.Unicode

variable {left right word text : List Char}

def EndsBlank (text : List Char) : Prop := ∀ c ∈ text.getLast?, isBlank c = true

def StartsBlank (text : List Char) : Prop := ∀ c ∈ text.head?, isBlank c = true

instance (text : List Char) : Decidable (EndsBlank text) :=
  decidable_of_iff (text.getLast?.all isBlank = true) (by cases last : text.getLast? <;> simp [EndsBlank, last])

instance (text : List Char) : Decidable (StartsBlank text) :=
  decidable_of_iff (text.head?.all isBlank = true) (by cases first : text.head? <;> simp [StartsBlank, first])

/-- Whether two parts of a text meet at a blank or one of them is empty. -/
def MeetAtBlank (left right : List Char) : Prop := EndsBlank left ∨ StartsBlank right

theorem EndsBlank.exists_concat (ends : EndsBlank text) (filled : text ≠ []) :
    ∃ front blank, text = front ++ [blank] ∧ isBlank blank = true :=
  ⟨text.dropLast, text.getLast filled, (List.dropLast_concat_getLast filled).symm,
    ends _ (List.getLast?_eq_some_getLast filled)⟩

theorem EndsBlank.of_append (ends : EndsBlank (left ++ right)) : EndsBlank right := by
  intro c last
  refine ends c ?_
  rw [Option.mem_def] at last ⊢
  rw [List.getLast?_append, last, Option.some_or]

theorem StartsBlank.take (starts : StartsBlank text) (length : Nat) : StartsBlank (text.take length) := by
  intro c first
  rw [List.head?_take] at first
  split at first
  · cases first
  · exact starts c first

theorem MeetAtBlank.of_cons {c : Char} (meet : MeetAtBlank (c :: left) right) : MeetAtBlank left right :=
  meet.imp_left fun ends => EndsBlank.of_append (show EndsBlank ([c] ++ left) from ends)

/-- A word without blanks that starts a text does not reach over a blank. -/
theorem isPrefix_append_iff (solid : ∀ c ∈ word, isBlank c = false) (filled : left ≠ [])
    (meet : MeetAtBlank left right) : word <+: left ++ right ↔ word <+: left := by
  refine ⟨fun begins => ?_, fun begins => begins.trans (List.prefix_append left right)⟩
  rcases List.prefix_or_prefix_of_prefix begins (List.prefix_append left right) with within | ⟨beyond, rfl⟩
  · exact within
  · rcases meet with ends | starts
    · obtain ⟨front, c, rfl, blank⟩ := ends.exists_concat filled
      simp [solid c (by simp)] at blank
    · cases beyond with
      | nil => simp
      | cons b others =>
        obtain ⟨more, rfl⟩ := (List.prefix_append_right_inj left).mp begins
        have blank := starts b (by simp)
        simp [solid b (by simp)] at blank

theorem takeWhile_append_of_blank (stops : (∃ c ∈ left, isBlank c = true) ∨ StartsBlank right) :
    (left ++ right).takeWhile (fun c => !isBlank c) = left.takeWhile (fun c => !isBlank c) := by
  induction left with
  | nil =>
    rcases stops with ⟨c, member, _⟩ | starts
    · simp at member
    · cases right with
      | nil => rfl
      | cons b others => simp [starts b (by simp)]
  | cons c rest ih =>
    rw [List.cons_append, List.takeWhile_cons, List.takeWhile_cons]
    split
    · rename_i unblank
      refine congrArg (c :: ·) (ih (stops.imp_left ?_))
      rintro ⟨b, member, blank⟩
      rcases List.mem_cons.mp member with rfl | member
      · simp [blank] at unblank
      · exact ⟨b, member, blank⟩
    · rfl

theorem MeetAtBlank.lowerAscii (meet : MeetAtBlank left right) :
    MeetAtBlank (lowerAscii left) (lowerAscii right) := by
  refine meet.imp (fun ends c last => ?_) (fun starts c first => ?_)
  · rw [Text.lowerAscii, List.getLast?_map, Option.mem_def, Option.map_eq_some_iff] at last
    obtain ⟨b, last, rfl⟩ := last
    rw [toLower_of_isBlank (ends b last), ends b last]
  · rw [Text.lowerAscii, List.head?_map, Option.mem_def, Option.map_eq_some_iff] at first
    obtain ⟨b, first, rfl⟩ := first
    rw [toLower_of_isBlank (starts b first), starts b first]

theorem solid_linkedScheme : ∀ scheme ∈ Url.linkedSchemes, ∀ c ∈ scheme, isBlank c = false := by decide

theorem linkedScheme?_append (filled : left ≠ []) (meet : MeetAtBlank left right) :
    Url.linkedScheme? (left ++ right) = Url.linkedScheme? left := by
  have same : ∀ scheme ∈ Url.linkedSchemes,
      startsIgnoringCase scheme (left ++ right) = startsIgnoringCase scheme left := by
    intro scheme listed
    rw [Bool.eq_iff_iff, startsIgnoringCase_iff, startsIgnoringCase_iff, lowerAscii, List.map_append]
    exact isPrefix_append_iff (solid_linkedScheme scheme listed) (by simpa [lowerAscii] using filled) meet.lowerAscii
  simp only [Url.linkedScheme?, Url.linkedSchemes, List.find?_cons, List.find?_nil, same _ (List.mem_cons_self ..),
    same _ (List.mem_cons_of_mem _ (List.mem_cons_self ..))]

/-- An address that is read before a cut next to a blank is read there whatever the text after the cut
is. -/
theorem bareAddress?_append (previous : Option Char) (filled : left ≠ []) (meet : MeetAtBlank left right) :
    bareAddress? previous (left ++ right) = bareAddress? previous left := by
  unfold bareAddress?
  rw [linkedScheme?_append filled meet]
  cases found : Url.linkedScheme? left with
  | none => rfl
  | some scheme =>
    obtain ⟨listed, same⟩ := Url.lowerAscii_of_linkedScheme? found
    have within : scheme.length ≤ left.length := by
      have length := congrArg List.length same
      simp only [lowerAscii, List.length_map, List.length_take] at length
      omega
    have stops : (∃ c ∈ left.drop scheme.length, isBlank c = true) ∨ StartsBlank right := by
      refine meet.imp_left fun ends => ?_
      obtain ⟨front, c, rfl, blank⟩ := ends.exists_concat filled
      refine ⟨c, ?_, blank⟩
      rcases List.mem_append.mp
        ((List.take_append_drop scheme.length (front ++ [c])).symm ▸ List.mem_append_right front List.mem_cons_self)
        with early | late
      · -- the scheme would hold the blank
        have inside : c.toLower ∈ scheme := same ▸ List.mem_map_of_mem early
        rw [toLower_of_isBlank blank] at inside
        simp [solid_linkedScheme scheme listed c inside] at blank
      · exact late
    simp only [Option.bind_some, List.drop_append_of_le_length within, List.take_append_of_le_length within,
      takeWhile_append_of_blank stops]

/-- What stands before an address matters only if it is a letter or a number. -/
theorem bareAddress?_congr {before before' : Option Char}
    (same : before.any isAlphanumeric = before'.any isAlphanumeric) (text : List Char) :
    bareAddress? before text = bareAddress? before' text := by
  simp only [bareAddress?, same]

namespace Delimiter

variable {delimiter : Delimiter}

theorem solid_written (known : delimiter ∈ all) : ∀ c ∈ delimiter.written, isBlank c = false :=
  (by decide : ∀ delimiter ∈ all, ∀ c ∈ delimiter.written, isBlank c = false) delimiter known

theorem written_eq (delimiter : Delimiter) :
    delimiter.written = delimiter.marker :: if delimiter.double then [delimiter.marker] else [] := by
  cases double : delimiter.double <;> simp [written, double]

theorem written_ne_nil (known : delimiter ∈ all) : delimiter.written ≠ [] :=
  (by decide : ∀ delimiter ∈ all, delimiter.written ≠ []) delimiter known

theorem isPrefixOf_append (known : delimiter ∈ all) (filled : left ≠ []) (meet : MeetAtBlank left right) :
    delimiter.written.isPrefixOf (left ++ right) = delimiter.written.isPrefixOf left := by
  rw [Bool.eq_iff_iff, List.isPrefixOf_iff_prefix, List.isPrefixOf_iff_prefix]
  exact isPrefix_append_iff (solid_written known) filled meet

/-- The character after a delimiter before a cut next to a blank does not depend on the text after
the cut, but for the blank. -/
theorem next_append (known : delimiter ∈ all) (begins : delimiter.written <+: left) (meet : MeetAtBlank left right) :
    ((left ++ right).drop delimiter.written.length).head? = (left.drop delimiter.written.length).head? ∨
      (left.drop delimiter.written.length).head? = none ∧
        ∀ c ∈ ((left ++ right).drop delimiter.written.length).head?, isBlank c = true := by
  obtain ⟨others, rfl⟩ := begins
  rw [List.append_assoc, List.drop_left, List.drop_left]
  cases others with
  | cons c more => exact .inl rfl
  | nil =>
    refine .inr ⟨rfl, ?_⟩
    rcases meet with ends | starts
    · rw [List.append_nil] at ends
      obtain ⟨front, c, shape, blank⟩ := ends.exists_concat (written_ne_nil known)
      have member : c ∈ delimiter.written := shape ▸ List.mem_append_right front List.mem_cons_self
      simp [solid_written known c member] at blank
    · exact starts

/-- A delimiter opens where it stands. -/
theorem isPrefix_of_opens {previous : Option Char} (opens : delimiter.opens previous text = true) :
    delimiter.written <+: text := by
  simp only [Delimiter.opens, Bool.and_eq_true] at opens
  exact List.isPrefixOf_iff_prefix.mp opens.1.1

theorem opens_append (known : delimiter ∈ all) (filled : left ≠ []) (meet : MeetAtBlank left right)
    (previous : Option Char) : delimiter.opens previous (left ++ right) = delimiter.opens previous left := by
  have begins := isPrefixOf_append known filled meet
  unfold opens
  by_cases written : delimiter.written <+: left
  · rw [begins, List.isPrefixOf_iff_prefix.mpr written]
    rcases next_append known written meet with same | ⟨none, blank⟩
    · rw [same]
    · rw [none]
      cases next : ((left ++ right).drop delimiter.written.length).head? with
      | none => rfl
      | some c => simp [blank c next]
  · have not : delimiter.written.isPrefixOf left = false :=
      Bool.eq_false_iff.mpr fun own => written (List.isPrefixOf_iff_prefix.mp own)
    simp [begins, not]

theorem closes_append (known : delimiter ∈ all) (filled : left ≠ []) (meet : MeetAtBlank left right)
    (previous : Char) : delimiter.closes previous (left ++ right) = delimiter.closes previous left := by
  have begins := isPrefixOf_append known filled meet
  unfold closes
  by_cases written : delimiter.written <+: left
  · rw [begins, List.isPrefixOf_iff_prefix.mpr written]
    rcases next_append known written meet with same | ⟨none, blank⟩
    · rw [same]
    · rw [none]
      cases next : ((left ++ right).drop delimiter.written.length).head? with
      | none => rfl
      | some c =>
        have blank := blank c next
        have differs : c ≠ delimiter.marker := by
          rintro rfl
          have marker := (by decide : ∀ delimiter ∈ all, isBlank delimiter.marker = false) delimiter known
          simp [marker] at blank
        simp [differs, not_isAlphanumeric_of_isBlank blank]
  · have not : delimiter.written.isPrefixOf left = false :=
      Bool.eq_false_iff.mpr fun own => written (List.isPrefixOf_iff_prefix.mp own)
    simp [begins, not]

/-- The first closing place of a text that is cut next to a blank is the first one before the cut, or
else the first one after it. -/
theorem untilCloser?_append (known : delimiter ∈ all) (meet : MeetAtBlank left right) (previous : Char) :
    delimiter.untilCloser? previous (left ++ right) =
      (delimiter.untilCloser? previous left).or
        ((delimiter.untilCloser? (left.getLast?.getD previous) right).map (· + left.length)) := by
  induction left generalizing previous with
  | nil => simp [untilCloser?]
  | cons c rest ih =>
    have same := closes_append known (List.cons_ne_nil c rest) meet previous
    rw [List.cons_append] at same
    rw [List.cons_append, untilCloser?, untilCloser?, same]
    split
    · rfl
    · have last : (c :: rest).getLast?.getD previous = rest.getLast?.getD c := by
        rw [List.getLast?_cons, Option.getD_some]
      rw [ih meet.of_cons, last]
      cases delimiter.untilCloser? c rest <;> simp [Function.comp_def, Nat.add_assoc]

theorem contentLength?_append (known : delimiter ∈ all) (filled : left ≠ []) (meet : MeetAtBlank left right) :
    ∃ later : Option Nat, delimiter.contentLength? (left ++ right) =
      (delimiter.contentLength? left).or (later.map (· + left.length)) := by
  obtain ⟨c, rest, rfl⟩ := List.exists_cons_of_ne_nil filled
  rw [List.cons_append, contentLength?, contentLength?, untilCloser?_append known meet.of_cons]
  refine ⟨delimiter.untilCloser? (rest.getLast?.getD c) right, ?_⟩
  cases delimiter.untilCloser? c rest <;> simp [Function.comp_def, Nat.add_assoc]

/-- The delimiter that closes stands within the text. -/
theorem untilCloser?_le {previous : Char} {length : Nat} (found : delimiter.untilCloser? previous text = some length) :
    length + delimiter.written.length ≤ text.length := by
  induction text generalizing previous length with
  | nil => simp [untilCloser?] at found
  | cons c rest ih =>
    rw [untilCloser?] at found
    split at found
    · rename_i closed
      obtain rfl := Option.some.inj found
      simp only [closes, Bool.and_eq_true] at closed
      have begins := List.isPrefixOf_iff_prefix.mp closed.1.1.1.1.1
      simpa using begins.length_le
    · obtain ⟨later, closed, rfl⟩ := Option.map_eq_some_iff.mp found
      have within := ih closed
      simp only [List.length_cons]
      omega

theorem contentLength?_le {length : Nat} (found : delimiter.contentLength? text = some length) :
    length + delimiter.written.length ≤ text.length := by
  cases text with
  | nil => simp [contentLength?] at found
  | cons c rest =>
    obtain ⟨later, closed, rfl⟩ := Option.map_eq_some_iff.mp found
    have within := untilCloser?_le closed
    simp only [List.length_cons]
    omega

/-- What stands before a delimiter matters only if it is a letter or a number. -/
theorem opens_congr {before before' : Option Char}
    (same : before.any isAlphanumeric = before'.any isAlphanumeric) (text : List Char) :
    delimiter.opens before text = delimiter.opens before' text := by
  simp only [opens, same]

end Delimiter

end Markdown

end PostMarkup
