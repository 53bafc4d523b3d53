import PostMarkup.Unicode.Casing

/-! # Characters that differ in letter case only

A family consists of a small letter, its capitals, and the variants of the letter that have the same
capital.
-/

namespace PostMarkup.Unicode

/-- Variants of small letters, each with the letter that it is a variant of. -/
def letterVariants : List (Char × Char) := [
  ('\u00b5', 'μ'), ('\u017f', 's'), ('\u0345', 'ι'), ('\u03c2', 'σ'), ('\u03d0', 'β'),
  ('\u03d1', 'θ'), ('\u03d5', 'φ'), ('\u03d6', 'π'), ('\u03f0', 'κ'), ('\u03f1', 'ρ'),
  ('\u03f5', 'ε'), ('\u1c80', 'в'), ('\u1c81', 'д'), ('\u1c82', 'о'), ('\u1c83', 'с'),
  ('\u1c84', 'т'), ('\u1c85', 'т'), ('\u1c86', 'ъ'), ('\u1c87', 'ѣ'), ('\u1c88', '\ua64b'),
  ('\u1e9b', '\u1e61'), ('\u1fbe', 'ι'), ('\u1fd3', '\u0390'), ('\u1fe3', '\u03b0'),
  ('\ufb05', '\ufb06')]

/-- The small letter that stands for the family of a character. -/
def familyHead (c : Char) : Char :=
  match letterVariants.find? fun entry => entry.1 = c with
  | some entry => entry.2
  | none => toSmall c

/-- The capitals outside ASCII of a small letter. -/
def capitalsOf (small : Char) : List Char :=
  capitalRuns.filterMap fun run =>
    let offset := small.toNat - run.small
    if run.small ≤ small.toNat ∧ run.first + offset ≤ run.last ∧ offset % run.step = 0 then
      some (Char.ofNat (run.first + offset))
    else none

/-- The characters that differ from a character in letter case only, itself among them. -/
def caseFamily (c : Char) : List Char :=
  let small := familyHead c
  c :: small :: small.toUpper :: capitalsOf small ++
    (letterVariants.filter fun entry => entry.2 = small).map Prod.fst

end PostMarkup.Unicode
