import Mathlib.Data.List.Forall2
import Mathlib.Data.Nat.Digits.Defs
import PostMarkup.Text.Ascii

/-! # Numerals

The digits of a numeral count from the last one on, each times the base once more than the digit after it.
A numeral that is read has digits of its base only, in either case, and is read as the number that they
make up.
-/

namespace PostMarkup.Text

variable {base value : Nat} {c : Char} {digits : List Char}

/-- Whether a character is the digit for a value in a base up to sixteen, where letters have either case. -/
def IsDigit (base value : Nat) (c : Char) : Prop := value < base ∧ c.toLower = Nat.digitChar value

/-- Whether digits are a numeral for a value, with the digit that counts most first. -/
def IsNumeral (base value : Nat) (digits : List Char) : Prop :=
  digits ≠ [] ∧ ∃ values, List.Forall₂ (IsDigit base) values digits ∧ Nat.ofDigits base values.reverse = value

theorem toNat_lt_of_hexValue? (read : hexValue? c = some value) : c.toNat < 128 ∧ value < 16 := by
  unfold hexValue? at read
  split at read
  · rename_i digit
    have range : 48 ≤ c.toNat ∧ c.toNat ≤ 57 := by simpa [Char.isDigit, UInt32.le_iff_toNat_le] using digit
    have same : c.toNat - 48 = value := Option.some.inj read
    omega
  · split at read
    · rename_i letter
      have range : 97 ≤ c.toNat ∧ c.toNat ≤ 102 := by simpa [Char.le_def, UInt32.le_iff_toNat_le] using letter
      have same : c.toNat - 97 + 10 = value := Option.some.inj read
      omega
    · split at read
      · rename_i letter
        have range : 65 ≤ c.toNat ∧ c.toNat ≤ 70 := by simpa [Char.le_def, UInt32.le_iff_toNat_le] using letter
        have same : c.toNat - 65 + 10 = value := Option.some.inj read
        omega
      · cases read

theorem IsDigit.toNat_lt (digit : IsDigit 16 value c) : c.toNat < 128 := by
  obtain ⟨bound, same⟩ := digit
  by_cases capital : 'A'.val ≤ c.val ∧ c.val ≤ 'Z'.val
  · have high : c.toNat ≤ 90 := capital.2
    omega
  · have own : c.toLower = c := dif_neg capital
    rw [← own, same]
    exact (by decide : ∀ value < 16, (Nat.digitChar value).toNat < 128) value bound

/-- A hexadecimal digit is read as its value. -/
theorem hexValue?_eq_some_iff : hexValue? c = some value ↔ IsDigit 16 value c := by
  have small : ∀ code < 128, ∀ value < 16, hexValue? (Char.ofNat code) = some value ↔
      (Char.ofNat code).toLower = Nat.digitChar value := by decide
  constructor
  · intro read
    obtain ⟨narrow, bound⟩ := toNat_lt_of_hexValue? read
    have own := small c.toNat narrow value bound
    rw [Char.ofNat_toNat] at own
    exact ⟨bound, own.mp read⟩
  · intro digit
    have own := small c.toNat digit.toNat_lt value digit.1
    rw [Char.ofNat_toNat] at own
    exact own.mpr digit.2

def addDigit? (base value : Nat) (c : Char) : Option Nat :=
  (hexValue? c).bind fun digit => if digit < base then some (value * base + digit) else none

theorem addDigit?_eq_some_iff {sum : Nat} (small : base ≤ 16) :
    addDigit? base value c = some sum ↔ ∃ digit, IsDigit base digit c ∧ value * base + digit = sum := by
  simp only [addDigit?, Option.bind_eq_some_iff, Option.ite_none_right_eq_some, Option.some.injEq,
    hexValue?_eq_some_iff]
  constructor
  · rintro ⟨digit, ⟨_, same⟩, bound, total⟩
    exact ⟨digit, ⟨bound, same⟩, total⟩
  · rintro ⟨digit, ⟨bound, same⟩, total⟩
    exact ⟨digit, ⟨Nat.lt_of_lt_of_le bound small, same⟩, bound, total⟩

theorem foldlM_addDigit? (small : base ≤ 16) (first : Nat) (digits : List Char) :
    digits.foldlM (addDigit? base) first = some value ↔
      ∃ values, List.Forall₂ (IsDigit base) values digits ∧
        values.foldl (fun sum digit => sum * base + digit) first = value := by
  induction digits generalizing first with
  | nil => simp [List.forall₂_nil_right_iff]
  | cons c rest ih =>
    simp only [List.foldlM_cons, Option.bind_eq_bind, Option.bind_eq_some_iff, addDigit?_eq_some_iff small, ih]
    constructor
    · rintro ⟨_, ⟨digit, own, rfl⟩, values, others, total⟩
      exact ⟨digit :: values, .cons own others, total⟩
    · rintro ⟨_, matched, total⟩
      cases matched with
      | @cons digit _ values _ own others => exact ⟨_, ⟨digit, own, rfl⟩, values, others, total⟩

theorem foldl_eq_ofDigits (base : Nat) (values : List Nat) :
    values.foldl (fun sum digit => sum * base + digit) 0 = Nat.ofDigits base values.reverse := by
  have order : (fun sum digit => sum * base + digit) = fun sum digit => digit + base * sum := by
    funext sum digit
    rw [Nat.add_comm, Nat.mul_comm]
  rw [Nat.ofDigits_eq_foldr, List.foldr_reverse, order]
  rfl

/-- What is read as a number is a numeral for it. -/
theorem numeral?_eq_some_iff (small : base ≤ 16) :
    numeral? base digits = some value ↔ IsNumeral base value digits := by
  have fold : numeral? base digits = if digits.isEmpty then none else digits.foldlM (addDigit? base) 0 := rfl
  simp only [fold, IsNumeral, Option.ite_none_left_eq_some, foldlM_addDigit? small, foldl_eq_ofDigits,
    List.isEmpty_iff]

/-- A numeral holds nothing but characters that are digits in base sixteen. -/
theorem IsNumeral.isSome_hexValue? (small : base ≤ 16) (numeral : IsNumeral base value digits) :
    ∀ c ∈ digits, (hexValue? c).isSome = true := by
  obtain ⟨-, values, matched, -⟩ := numeral
  induction matched with
  | nil => simp
  | cons own _ ih =>
    have digit : IsDigit 16 _ _ := ⟨Nat.lt_of_lt_of_le own.1 small, own.2⟩
    exact List.forall_mem_cons.mpr ⟨Option.isSome_of_eq_some (hexValue?_eq_some_iff.mpr digit), ih⟩

end PostMarkup.Text
