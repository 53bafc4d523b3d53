import PostMarkup.BBCode.Pattern

/-! # Characters that a pattern never takes

A text that fits a pattern holds none of the characters that no set of the pattern holds. What
remains of a pattern after a character takes no further characters.
-/

namespace PostMarkup.Pattern

variable {pattern first second : Pattern} {avoided c : Char} {before : Option Char}

def avoids (avoided : Char) : Pattern → Bool
  | never | nothing | atEdge _ => true
  | one set => !set.holds avoided
  | seq first second | alt first second => first.avoids avoided && second.avoids avoided
  | counted inner _ _ => inner.avoids avoided

theorem avoids_andThen (left : first.avoids avoided = true) (right : second.avoids avoided = true) :
    (first.andThen second).avoids avoided = true := by
  fun_cases andThen first second with
  | case1 => exact right
  | case2 => exact left
  | case3 => simp [avoids, left, right]

/-- What remains of a pattern avoids what the pattern avoids. -/
theorem avoids_of_mem_afterChar (clean : pattern.avoids avoided = true) {rest : Pattern}
    (member : rest ∈ pattern.afterChar before c) : rest.avoids avoided = true := by
  induction pattern generalizing rest with
  | never => simp [afterChar] at member
  | nothing => simp [afterChar] at member
  | atEdge => simp [afterChar] at member
  | one set =>
    obtain ⟨_, rfl⟩ : set.holds c = true ∧ rest = nothing := by simpa [afterChar] using member
    rfl
  | seq first second ihFirst ihSecond =>
    simp only [avoids, Bool.and_eq_true] at clean
    have further (inside : rest ∈ (first.afterChar before c).map fun rest => rest.andThen second) :
        rest.avoids avoided = true := by
      obtain ⟨remaining, listed, rfl⟩ := List.mem_map.mp inside
      exact avoids_andThen (ihFirst clean.1 listed) clean.2
    rw [afterChar] at member
    split at member
    · rcases List.mem_append.mp member with inside | inside
      · exact further inside
      · exact ihSecond clean.2 inside
    · exact further member
  | alt left right ihLeft ihRight =>
    simp only [avoids, Bool.and_eq_true] at clean
    rcases List.mem_append.mp member with inside | inside
    · exact ihLeft clean.1 inside
    · exact ihRight clean.2 inside
  | counted inner least most ih =>
    rw [afterChar] at member
    split at member
    · simp at member
    · obtain ⟨remaining, listed, rfl⟩ := List.mem_map.mp member
      exact avoids_andThen (ih clean listed) clean

/-- A character that a pattern avoids fits nowhere. -/
theorem afterChar_of_avoids (clean : pattern.avoids c = true) : pattern.afterChar before c = [] := by
  induction pattern with
  | never => rfl
  | nothing => rfl
  | atEdge => rfl
  | one set => simpa [afterChar, avoids] using clean
  | seq first second ihFirst ihSecond =>
    simp only [avoids, Bool.and_eq_true] at clean
    simp [afterChar, ihFirst clean.1, ihSecond clean.2]
  | alt left right ihLeft ihRight =>
    simp only [avoids, Bool.and_eq_true] at clean
    simp [afterChar, ihLeft clean.1, ihRight clean.2]
  | counted inner least most ih => simp [afterChar, ih clean]

theorem anyAccepts_nil (before : Option Char) (text : List Char) : anyAccepts before [] text = false := by
  induction text generalizing before with
  | nil => rfl
  | cons c rest ih => simpa [anyAccepts] using ih (some c)

theorem not_mem_of_anyAccepts {patterns : List Pattern} {text : List Char}
    (clean : ∀ pattern ∈ patterns, pattern.avoids avoided = true)
    (fits : anyAccepts before patterns text = true) : avoided ∉ text := by
  induction text generalizing before patterns with
  | nil => simp
  | cons c rest ih =>
    rw [anyAccepts] at fits
    rw [List.mem_cons, not_or]
    constructor
    · rintro rfl
      have none : patterns.flatMap (afterChar before avoided) = [] := by
        rw [List.flatMap_eq_nil_iff]
        intro pattern member
        exact afterChar_of_avoids (clean pattern member)
      rw [none] at fits
      simp [anyAccepts_nil] at fits
    · apply ih _ fits
      intro remaining member
      obtain ⟨pattern, listed, inside⟩ := List.mem_flatMap.mp (List.mem_eraseDups.mp member)
      exact avoids_of_mem_afterChar (clean pattern listed) inside

/-- A text that fits a pattern holds no character that the pattern avoids. -/
theorem not_mem_of_accepts {text : List Char} (clean : pattern.avoids avoided = true)
    (fits : pattern.accepts text = true) : avoided ∉ text :=
  not_mem_of_anyAccepts (List.forall_mem_singleton.mpr clean) fits

end PostMarkup.Pattern
