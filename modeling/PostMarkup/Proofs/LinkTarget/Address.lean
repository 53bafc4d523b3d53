import Mathlib.Data.List.Infix
import Mathlib.Data.List.TakeWhile
import PostMarkup.LinkTarget
import PostMarkup.Proofs.Reference
import PostMarkup.Proofs.Text.Lines

/-! # Which values are taken for addresses

Addresses are looked for without regard to where values start and end. A text up to a double quote
makes what follows an address exactly when it ends in a blank and the name of an address attribute
with its equals sign, no matter whether the quote opens a value or closes one.
-/

namespace PostMarkup.LinkTarget

open PostMarkup.Text

/-- The attributes that hold an address, each with its equals sign. -/
def addressWords : List (List Char) := ["href=".toList, "src=".toList]

/-- Whether a text ends in a blank and then the name of an address attribute with its equals
sign. -/
def opensAddress : List Char → Bool
  | [] => false
  | c :: rest => (isBlank c && addressWords.contains rest) || opensAddress rest

/-- What becomes of the text after the quote that opens an address. -/
def insideAddress (replace : List Char → List Char) (text : List Char) : List Char :=
  match text.dropWhile (· ≠ '"') with
  | [] => text
  | quote :: after =>
    replace (text.takeWhile (· ≠ '"')) ++ quote :: mapAddresses replace (some quote) after

variable {replace : List Char → List Char} {segment value rest : List Char}

theorem takeWhile_unquoted (clean : '"' ∉ value) :
    (value ++ '"' :: rest).takeWhile (· ≠ '"') = value ∧
      (value ++ '"' :: rest).dropWhile (· ≠ '"') = '"' :: rest := by
  have plain : ∀ c ∈ value, decide (c ≠ '"') = true := by
    intro c member
    simp only [decide_eq_true_eq]
    rintro rfl
    exact clean member
  rw [List.dropWhile_append_of_pos plain, List.takeWhile_append_of_pos plain]
  simp

theorem insideAddress_value (clean : '"' ∉ value) : insideAddress replace (value ++ '"' :: rest) =
    replace value ++ '"' :: mapAddresses replace (some '"') rest := by
  obtain ⟨taken, dropped⟩ := takeWhile_unquoted clean
  unfold insideAddress
  rw [dropped, taken]

theorem insideAddress_unquoted (clean : '"' ∉ value) : insideAddress replace value = value := by
  have nothing : value.dropWhile (· ≠ '"') = [] := by
    simp only [List.dropWhile_eq_nil_iff, decide_eq_true_eq]
    rintro c member rfl
    exact clean member
  unfold insideAddress
  rw [nothing]

/-- An address attribute that starts a text starts it without its quote. -/
theorem mem_addressWords_of_start {lead : List Char} (listed : lead ∈ addressAttributes)
    (unquoted : '"' ∉ segment) (start : lead <+: segment ++ '"' :: rest) :
    segment ∈ addressWords ∧ lead = segment ++ ['"'] := by
  obtain ⟨after, whole⟩ := start
  obtain ⟨word, known, rfl⟩ : ∃ word ∈ addressWords, lead = word ++ ['"'] := by
    simp only [addressAttributes, List.mem_cons, List.not_mem_nil, or_false] at listed
    rcases listed with rfl | rfl
    · exact ⟨"href=".toList, by decide, rfl⟩
    · exact ⟨"src=".toList, by decide, rfl⟩
  have plain : '"' ∉ word := (by decide : ∀ word ∈ addressWords, '"' ∉ word) word known
  have cut := congrArg (List.takeWhile (· ≠ '"')) whole
  rw [(takeWhile_unquoted unquoted).1, List.append_assoc, List.singleton_append,
    (takeWhile_unquoted plain).1] at cut
  subst cut
  exact ⟨known, rfl⟩

/-- A character that starts no address attribute after a blank is copied. -/
theorem mapAddresses_cons {previous : Option Char} {c : Char}
    (other : previous.any isBlank = true → ∀ lead ∈ addressAttributes, ¬ lead <+: c :: rest) :
    mapAddresses replace previous (c :: rest) = c :: mapAddresses replace (some c) rest := by
  rw [mapAddresses]
  split
  · rename_i blank lead kept found
    have start := List.find?_some found
    obtain ⟨same, isBlank⟩ := Option.filter_eq_some_iff.mp kept
    exact absurd (List.isPrefixOf_iff_prefix.mp start)
      (other (by simpa [same] using isBlank) lead (List.mem_of_find?_eq_some found))
  · rfl

/-- An address attribute after a blank opens an address. -/
theorem mapAddresses_lead {blank : Char} (isBlank : isBlank blank = true) {word : List Char}
    (known : word ∈ addressWords) : mapAddresses replace (some blank) (word ++ '"' :: rest) =
      word ++ '"' :: insideAddress replace rest := by
  have kept : (some blank).filter Text.isBlank = some blank := by simp [isBlank]
  have dropped := Text.drop_takeWhile (· ≠ '"') rest
  have further : rest.drop ((rest.takeWhile (· ≠ '"')).length + 1) =
      (rest.dropWhile (· ≠ '"')).tail := by
    rw [← List.drop_drop, dropped, List.drop_one]
  obtain ⟨c, more, rfl, found⟩ : ∃ c more, word = c :: more ∧
      addressAttributes.find? (·.isPrefixOf (word ++ '"' :: rest)) = some (word ++ ['"']) := by
    simp only [addressWords, List.mem_cons, List.not_mem_nil, or_false] at known
    rcases known with rfl | rfl
    · exact ⟨'h', "ref=".toList, rfl, rfl⟩
    · exact ⟨'s', "rc=".toList, rfl, rfl⟩
  have fromValue : (more ++ '"' :: rest).drop (more.length + 1) = rest := by
    rw [← List.drop_drop, List.drop_left, List.drop_one, List.tail_cons]
  have fromNext : (more ++ '"' :: rest).drop
      (more.length + 1 + 1 + (rest.takeWhile (· ≠ '"')).length) =
        (rest.dropWhile (· ≠ '"')).tail := by
    rw [← further, show more.length + 1 + 1 + (rest.takeWhile (· ≠ '"')).length =
      more.length + 1 + ((rest.takeWhile (· ≠ '"')).length + 1) by omega, ← List.drop_drop, fromValue]
  unfold insideAddress
  rw [List.cons_append] at found ⊢
  rw [mapAddresses]
  simp only [kept, found, List.cons_append, List.length_cons, List.length_append, List.length_nil,
    Nat.add_sub_cancel, Nat.zero_add, fromValue, dropped, fromNext]
  cases rest.dropWhile (· ≠ '"') with
  | nil => rfl
  | cons quote after => simp

/-- A text up to a double quote is copied, and it may open an address. -/
theorem mapAddresses_segment (unquoted : '"' ∉ segment) (previous : Option Char) :
    mapAddresses replace previous (segment ++ '"' :: rest) = segment ++ '"' ::
      if opensAddress (previous.toList ++ segment) then insideAddress replace rest
      else mapAddresses replace (some '"') rest := by
  induction segment generalizing previous with
  | nil =>
    have closed : opensAddress (previous.toList ++ []) = false := by
      cases previous with
      | none => rfl
      | some c => simp [opensAddress, addressWords]
    rw [closed]
    refine mapAddresses_cons fun _ lead listed start => ?_
    exact absurd (mem_addressWords_of_start listed (List.not_mem_nil) start).1 (by decide)
  | cons c more ih =>
    by_cases opens : previous.any isBlank = true ∧ c :: more ∈ addressWords
    · obtain ⟨blank, rfl, isBlank⟩ := (Option.any_eq_true ..).mp opens.1
      have opened : opensAddress ((some blank).toList ++ c :: more) = true := by
        simp [opensAddress, isBlank, opens.2]
      rw [opened, mapAddresses_lead isBlank opens.2]
      rfl
    · have same : opensAddress (previous.toList ++ c :: more) = opensAddress (c :: more) := by
        cases previous with
        | none => rfl
        | some blank =>
          rw [Option.any_some] at opens
          cases isBlank : Text.isBlank blank with
          | false => simp [opensAddress, isBlank]
          | true =>
            have other : c :: more ∉ addressWords := fun known => opens ⟨isBlank, known⟩
            simp [opensAddress, other]
      have further : '"' ∉ more := fun member => unquoted (List.mem_cons_of_mem _ member)
      rw [same, List.cons_append, mapAddresses_cons, ih further (some c)]
      · rfl
      · intro blank lead listed start
        exact opens ⟨blank, (mem_addressWords_of_start listed unquoted start).1⟩

/-- A text without a double quote is copied. -/
theorem mapAddresses_unquoted (unquoted : '"' ∉ segment) (previous : Option Char) :
    mapAddresses replace previous segment = segment := by
  induction segment generalizing previous with
  | nil => simp [mapAddresses]
  | cons c more ih =>
    rw [mapAddresses_cons]
    · rw [ih fun member => unquoted (List.mem_cons_of_mem _ member)]
    · intro _ lead listed start
      have quote : '"' ∈ lead := (by decide : ∀ lead ∈ addressAttributes, '"' ∈ lead) lead listed
      exact unquoted (start.subset quote)

theorem opensAddress_append {text : List Char} (solid : ∀ c ∈ text, isBlank c = false) :
    opensAddress (text ++ rest) = opensAddress rest := by
  induction text with
  | nil => rfl
  | cons c others ih =>
    obtain ⟨first, further⟩ := List.forall_mem_cons.mp solid
    simp [opensAddress, first, ih further]

/-- A blank or a character of an address word is escaped as itself. -/
theorem contains_escapeAttribute (text : List Char) :
    addressWords.contains (escapeAttribute text) = addressWords.contains text := by
  have plain : ∀ word ∈ addressWords, escapeAttribute word = word := by decide
  rw [Bool.eq_iff_iff, List.contains_iff_mem, List.contains_iff_mem]
  constructor
  · intro listed
    have back := congrArg unescape (plain _ listed)
    rw [unescape_escapeAttribute, unescape_escapeAttribute] at back
    rwa [back] at listed
  · intro listed
    rwa [plain text listed]

/-- Escaping does not change whether a text ends like the start of an address. -/
theorem opensAddress_escapeAttribute (text : List Char) :
    opensAddress (escapeAttribute text) = opensAddress text := by
  induction text with
  | nil => rfl
  | cons c rest ih =>
    by_cases own : escapeAttributeChar c = [c]
    · rw [escapeAttribute_cons, own, List.singleton_append, opensAddress, opensAddress, ih,
        contains_escapeAttribute]
    · obtain ⟨solid, notBlank⟩ : (∀ d ∈ escapeAttributeChar c, isBlank d = false) ∧
          isBlank c = false := by
        unfold escapeAttributeChar escapeChar at own ⊢
        split
        · decide
        · split
          · decide
          · decide
          · decide
          · exact absurd (by simp_all) own
      rw [escapeAttribute_cons, opensAddress_append solid, ih, opensAddress, notBlank]
      rfl

end PostMarkup.LinkTarget
