import PostMarkup.Text.Ascii

/-! # Capitals of ASCII

Making a text small in ASCII changes the twenty-six capitals and nothing else.
-/

namespace PostMarkup.Text

def capitalCodes : List Nat := List.range' 65 26

/-- A character is small already, or it is a capital of ASCII. -/
theorem toLower_eq_or_capital (c : Char) : c.toLower = c ∨ c.toNat ∈ capitalCodes := by
  by_cases capital : 'A'.val ≤ c.val ∧ c.val ≤ 'Z'.val
  · have low : 65 ≤ c.toNat := capital.1
    have high : c.toNat ≤ 90 := capital.2
    right
    rw [capitalCodes, List.mem_range'_1]
    omega
  · exact .inl (dif_neg capital)

/-- Only a capital letter is changed when it is made small. -/
theorem eq_of_toLower {c mark : Char} (other : mark.isLower = false) (same : c.toLower = mark) : c = mark := by
  rcases toLower_eq_or_capital c with small | capital
  · exact small.symm.trans same
  · have letters : ∀ code ∈ capitalCodes, (Char.ofNat code).toLower.isLower = true := by decide
    have letter := letters c.toNat capital
    rw [Char.ofNat_toNat, same, other] at letter
    exact absurd letter Bool.false_ne_true

end PostMarkup.Text
