import PostMarkup.Proofs.Text.LetterCase
import PostMarkup.Unicode.Casing

/-! # The lowercase of parts of a text

The lowercase of a letter may depend on the letters around it, but no further than up to a character that is
neither a cased letter nor skipped when the end of a word is looked for. So a text can be cut at such a character
and the lowercase of its parts be taken apart. Capitals of ASCII may be made small before.
-/

namespace PostMarkup.Unicode

open PostMarkup.Text

variable {c : Char} {left right text : List Char}

/-- The letters around a character are looked at for the next cased one on either side. -/
theorem lowerBetween_congr {before before' after after' : List Char} (earlier : meetsCased before' = meetsCased before)
    (later : meetsCased after' = meetsCased after) : lowerBetween before' c after' = lowerBetween before c after := by
  rw [lowerBetween, lowerBetween, earlier, later]

/-- Whether a character is its own lowercase and keeps the letters on its two sides apart. -/
structure Separates (c : Char) : Prop where
  small : toSmall c = c
  notCased : isCased c = false
  notSkipped : isCaseIgnorable c = false

theorem at_separates : Separates '@' := ⟨by decide, by decide, by decide⟩

/-- Nothing beyond a separating character is looked at. -/
theorem Separates.meetsCased_append (separates : Separates c) (left right : List Char) :
    meetsCased (left ++ c :: right) = meetsCased left := by
  unfold meetsCased
  induction left with
  | nil => simp [separates.notSkipped, separates.notCased]
  | cons d others ih =>
    rw [List.cons_append]
    by_cases skipped : isCaseIgnorable d = true
    · rw [List.dropWhile_cons_of_pos skipped, List.dropWhile_cons_of_pos skipped, ih]
    · rw [List.dropWhile_cons_of_neg skipped, List.dropWhile_cons_of_neg skipped]

theorem Separates.lowerBetween_eq (separates : Separates c) (before after : List Char) :
    lowerBetween before c after = [c] := by
  have notDotted : c ≠ '\u0130' := by
    rintro rfl
    exact absurd separates.notCased (by decide)
  have notSigma : c ≠ 'Σ' := by
    rintro rfl
    exact absurd separates.notCased (by decide)
  rw [lowerBetween, if_neg notDotted, if_neg notSigma, separates.small]

/-- What comes before a separating character does not matter after it. -/
theorem Separates.lowerFrom_behind (separates : Separates c) (before earlier text : List Char) :
    lowerFrom (before ++ c :: earlier) text = lowerFrom before text := by
  induction text generalizing before with
  | nil => rfl
  | cons d rest ih =>
    have later := ih (d :: before)
    rw [List.cons_append] at later
    rw [lowerFrom, lowerFrom, later, lowerBetween_congr (separates.meetsCased_append before earlier) rfl]

theorem Separates.lowerFrom_append (separates : Separates c) (before left right : List Char) :
    lowerFrom before (left ++ c :: right) = lowerFrom before left ++ c :: lowercase right := by
  induction left generalizing before with
  | nil =>
    calc lowerFrom before (c :: right)
        = lowerBetween before c right ++ lowerFrom ([] ++ c :: before) right := rfl
      _ = c :: lowercase right := by
          rw [separates.lowerBetween_eq, separates.lowerFrom_behind, lowercase, List.singleton_append]
  | cons d rest ih =>
    rw [List.cons_append, lowerFrom, lowerFrom, ih, lowerBetween_congr rfl (separates.meetsCased_append rest right),
      List.append_assoc]

/-- The lowercase of a text is that of its parts before and after a separating character. -/
theorem Separates.lowercase_append (separates : Separates c) (left right : List Char) :
    lowercase (left ++ c :: right) = lowercase left ++ c :: lowercase right :=
  separates.lowerFrom_append [] left right

theorem smallCode?_ge {bound code small : Nat} {runs : List CapitalRun} (high : ∀ run ∈ runs, bound ≤ run.small)
    (found : smallCode? runs code = some small) : bound ≤ small := by
  induction runs with
  | nil => simp [smallCode?] at found
  | cons run rest ih =>
    obtain ⟨first, others⟩ := List.forall_mem_cons.mp high
    unfold smallCode? at found
    split at found
    · cases found
    · split at found
      · cases found
        exact Nat.le_add_right_of_le first
      · exact ih others found

/-- No other character has an at sign for its small letter. -/
theorem eq_at_of_toSmall (same : toSmall c = '@') : c = '@' := by
  unfold toSmall at same
  split at same
  · exact eq_of_toLower (by decide) same
  · split at same
    · rename_i small found
      have high : 97 ≤ small := smallCode?_ge (by decide +kernel) found
      by_cases valid : small.isValidChar
      · have written : Char.ofNat small = Char.ofNatAux small valid := dif_pos valid
        have own : small = 64 := congrArg Char.toNat (written.symm.trans same)
        omega
      · have written : Char.ofNat small = Char.ofNat 0 := dif_neg valid
        exact absurd (written.symm.trans same) (by decide)
    · exact same

theorem at_not_mem_lowerBetween (other : c ≠ '@') (before after : List Char) : '@' ∉ lowerBetween before c after := by
  unfold lowerBetween
  split
  · decide
  · split
    · split <;> decide
    · rw [List.mem_singleton]
      exact fun same => other (eq_at_of_toSmall same.symm)

/-- Lowercase brings no at sign into a text. -/
theorem at_not_mem_lowercase (clean : '@' ∉ text) : '@' ∉ lowercase text := by
  unfold lowercase
  generalize [] = before
  induction text generalizing before with
  | nil => simp [lowerFrom]
  | cons c rest ih =>
    simp only [List.mem_cons, not_or] at clean
    rw [lowerFrom]
    exact List.not_mem_append (at_not_mem_lowerBetween (Ne.symm clean.1) before rest) (ih clean.2 (c :: before))

/-- A capital of ASCII and its small letter are read alike. -/
theorem toLower_alike (c : Char) : isCased c.toLower = isCased c ∧ isCaseIgnorable c.toLower = isCaseIgnorable c ∧
    ∀ before after, lowerBetween before c.toLower after = lowerBetween before c after := by
  rcases toLower_eq_or_capital c with same | capital
  · rw [same]
    exact ⟨rfl, rfl, fun _ _ => rfl⟩
  · have letters : ∀ code ∈ capitalCodes, isCased (Char.ofNat code).toLower = isCased (Char.ofNat code) ∧
        isCaseIgnorable (Char.ofNat code).toLower = isCaseIgnorable (Char.ofNat code) ∧
        toSmall (Char.ofNat code).toLower = toSmall (Char.ofNat code) ∧
        Char.ofNat code ∉ ['\u0130', 'Σ'] ∧ (Char.ofNat code).toLower ∉ ['\u0130', 'Σ'] := by decide
    obtain ⟨cased, skipped, small, plain, plain'⟩ := letters c.toNat capital
    rw [Char.ofNat_toNat] at cased skipped small plain plain'
    simp only [List.mem_cons, List.not_mem_nil, or_false, not_or] at plain plain'
    refine ⟨cased, skipped, fun before after => ?_⟩
    rw [lowerBetween, lowerBetween, if_neg plain.1, if_neg plain.2, if_neg plain'.1, if_neg plain'.2, small]

theorem meetsCased_lowerAscii (text : List Char) : meetsCased (lowerAscii text) = meetsCased text := by
  unfold meetsCased lowerAscii
  induction text with
  | nil => rfl
  | cons c rest ih =>
    obtain ⟨cased, skipped, _⟩ := toLower_alike c
    by_cases ignorable : isCaseIgnorable c = true
    · rw [List.map_cons, List.dropWhile_cons_of_pos (skipped.trans ignorable), List.dropWhile_cons_of_pos ignorable, ih]
    · rw [List.map_cons, List.dropWhile_cons_of_neg (skipped ▸ ignorable), List.dropWhile_cons_of_neg ignorable]
      exact cased

theorem lowerFrom_lowerAscii (before text : List Char) :
    lowerFrom (lowerAscii before) (lowerAscii text) = lowerFrom before text := by
  induction text generalizing before with
  | nil => rfl
  | cons c rest ih =>
    calc lowerFrom (lowerAscii before) (lowerAscii (c :: rest))
        = lowerBetween (lowerAscii before) c.toLower (lowerAscii rest) ++
            lowerFrom (lowerAscii (c :: before)) (lowerAscii rest) := rfl
      _ = lowerBetween (lowerAscii before) c (lowerAscii rest) ++ lowerFrom (c :: before) rest := by
          rw [(toLower_alike c).2.2, ih]
      _ = lowerFrom before (c :: rest) := by
          rw [lowerBetween_congr (meetsCased_lowerAscii before) (meetsCased_lowerAscii rest), lowerFrom]

/-- Texts that differ in capitals of ASCII only have the same lowercase. -/
theorem lowercase_eq_of_sameIgnoringCase (same : sameIgnoringCase left right = true) :
    lowercase left = lowercase right := by
  have small : lowerAscii left = lowerAscii right := eq_of_beq same
  calc lowercase left
      = lowercase (lowerAscii left) := (lowerFrom_lowerAscii [] left).symm
    _ = lowercase (lowerAscii right) := congrArg _ small
    _ = lowercase right := lowerFrom_lowerAscii [] right

end PostMarkup.Unicode
