import PostMarkup.Proofs.BBCode.Step

/-! # Pairs of brackets

An opening and a closing bracket belong together if they have one name and stand directly in one
element, and if the brackets of that kind between them are paired among themselves. A counter of the
brackets that are open tells this while the tokens are read.
-/

namespace PostMarkup.BBCode

namespace Token

/-- Whether a token is an opening bracket of a definition that takes its parameter. -/
def opens (table : Table) (label : Label) : Token → Bool
  | .bracket element written =>
    !written.closing && label = ⟨element, written.name⟩ &&
      (table.get? written.name).any fun definition => definition.Takes written.parameter
  | _ => false

/-- Whether a token is a closing bracket of a definition. -/
def closes (table : Table) (label : Label) : Token → Bool
  | .bracket element written =>
    written.closing && label = ⟨element, written.name⟩ && (table.get? written.name).isSome
  | _ => false

/-- Whether a token is a closing bracket of some name, wherever it stands. -/
def closesName (name : List Char) : Token → Bool
  | .bracket _ written => written.closing && written.name = name
  | _ => false

end Token

/-- The number of brackets that are open after some tokens; none if one is closed that is not
open. -/
def depthAfter? (table : Table) (label : Label) (depth : Nat) : List Token → Option Nat
  | [] => some depth
  | token :: rest =>
    if token.opens table label then depthAfter? table label (depth + 1) rest
    else if token.closes table label then
      if depth = 0 then none else depthAfter? table label (depth - 1) rest
    else depthAfter? table label depth rest

/-- Whether the brackets with a label are paired among themselves. -/
def Paired (table : Table) (label : Label) (tokens : List Token) : Prop :=
  depthAfter? table label 0 tokens = some 0

/-- The number of brackets that are open after some tokens, where a closing bracket is passed over
if none is open. -/
def openAfter (table : Table) (label : Label) (depth : Nat) : List Token → Nat
  | [] => depth
  | token :: rest =>
    if token.opens table label then openAfter table label (depth + 1) rest
    else if token.closes table label then openAfter table label (depth - 1) rest
    else openAfter table label depth rest

variable {table : Table} {label other : Label} {token first last : Token}
  {left right inner rest : List Token} {depth final : Nat}

namespace Token

theorem opens_bracket_iff {element : Nat} {written : Bracket} :
    (bracket element written).opens table label = true ↔ written.closing = false ∧
      label = ⟨element, written.name⟩ ∧
        ∃ definition, table.get? written.name = some definition ∧ definition.Takes written.parameter := by
  simp [opens, Option.any_eq_true, and_assoc]

theorem closes_bracket_iff {element : Nat} {written : Bracket} :
    (bracket element written).closes table label = true ↔ written.closing = true ∧
      label = ⟨element, written.name⟩ ∧ ∃ definition, table.get? written.name = some definition := by
  simp [closes, Option.isSome_iff_exists, and_assoc]

theorem closesName_of_closes (closed : token.closes table label = true) :
    token.closesName label.name = true := by
  cases token with
  | tag _ => cases closed
  | char _ => cases closed
  | bracket element written =>
    obtain ⟨closing, rfl, _⟩ := closes_bracket_iff.mp closed
    simp [closesName, closing]

/-- A bracket that is opened has no other label. -/
theorem quiet_of_opens (opened : token.opens table label = true) (differs : label ≠ other) :
    token.opens table other = false ∧ token.closes table other = false := by
  cases token with
  | tag _ => cases opened
  | char _ => cases opened
  | bracket element written =>
    simp only [opens, Bool.and_eq_true, decide_eq_true_eq] at opened
    obtain ⟨⟨_, rfl⟩, _⟩ := opened
    simp [opens, closes, Ne.symm differs]

/-- A bracket that closes others opens none, and it has no other label. -/
theorem opens_eq_false_of_closes (closed : token.closes table label = true) (other : Label) :
    token.opens table other = false := by
  cases token with
  | tag _ => rfl
  | char _ => rfl
  | bracket element written =>
    simp only [closes, Bool.and_eq_true] at closed
    simp [opens, closed.1.1]

theorem quiet_of_closes (closed : token.closes table label = true) (differs : label ≠ other) :
    token.opens table other = false ∧ token.closes table other = false := by
  refine ⟨opens_eq_false_of_closes closed other, ?_⟩
  cases token with
  | tag _ => rfl
  | char _ => rfl
  | bracket element written =>
    simp only [closes, Bool.and_eq_true, decide_eq_true_eq] at closed
    obtain ⟨⟨_, rfl⟩, _⟩ := closed
    simp [closes, Ne.symm differs]

end Token

theorem depthAfter?_append : depthAfter? table label depth (left ++ right) =
    (depthAfter? table label depth left).bind (depthAfter? table label · right) := by
  fun_induction depthAfter? table label depth left with
  | case1 => rfl
  | case2 depth token rest opened ih => simpa [depthAfter?, opened] using ih
  | case3 token rest opened closed => simp [depthAfter?, opened, closed]
  | case4 depth token rest opened closed positive ih =>
    simpa [depthAfter?, opened, closed, positive] using ih
  | case5 depth token rest opened closed ih => simpa [depthAfter?, opened, closed] using ih

/-- Brackets that are open before do not matter. -/
theorem depthAfter?_add (found : depthAfter? table label depth left = some final) (more : Nat) :
    depthAfter? table label (depth + more) left = some (final + more) := by
  fun_induction depthAfter? table label depth left with
  | case1 => simpa [depthAfter?] using found
  | case2 depth token rest opened ih =>
    rw [depthAfter?, if_pos opened, Nat.add_right_comm]
    exact ih found
  | case3 token rest opened closed => cases found
  | case4 depth token rest opened closed positive ih =>
    have shifted : depth + more - 1 = depth - 1 + more := by omega
    rw [depthAfter?, if_neg opened, if_pos closed, if_neg (by omega), shifted]
    exact ih found
  | case5 depth token rest opened closed ih =>
    rw [depthAfter?, if_neg opened, if_neg closed]
    exact ih found

theorem openAfter_append : openAfter table label depth (left ++ right) =
    openAfter table label (openAfter table label depth left) right := by
  induction left generalizing depth with
  | nil => rfl
  | cons token rest ih =>
    simp only [List.cons_append, openAfter]
    split
    · exact ih
    · split
      · exact ih
      · exact ih

theorem openAfter_concat (left : List Token) (token : Token) :
    openAfter table label depth (left ++ [token]) =
      if token.opens table label then openAfter table label depth left + 1
      else if token.closes table label then openAfter table label depth left - 1
      else openAfter table label depth left :=
  openAfter_append

/-- Both counters agree unless a bracket is closed that is not open. -/
theorem openAfter_of_depthAfter? (found : depthAfter? table label depth left = some final) :
    openAfter table label depth left = final := by
  fun_induction depthAfter? table label depth left with
  | case1 => simpa [openAfter] using found
  | case2 depth token rest opened ih => simpa [openAfter, opened] using ih found
  | case3 token rest opened closed => cases found
  | case4 depth token rest opened closed _ ih => simpa [openAfter, opened, closed] using ih found
  | case5 depth token rest opened closed ih => simpa [openAfter, opened, closed] using ih found

namespace Paired

@[simp] theorem nil : Paired table label [] := rfl

theorem append (first : Paired table label left) (second : Paired table label right) :
    Paired table label (left ++ right) := by
  rw [Paired, depthAfter?_append, show depthAfter? table label 0 left = some 0 from first]
  exact second

theorem cons (quiet : token.opens table label = false ∧ token.closes table label = false)
    (paired : Paired table label rest) : Paired table label (token :: rest) := by
  rw [Paired, depthAfter?, quiet.1, quiet.2]
  exact paired

/-- A pair with its content, of which only the brackets with another label may be open. -/
theorem pair (opened : first.opens table label = true) (inside : Paired table label inner)
    (closed : last.closes table label = true) : Paired table label (first :: (inner ++ [last])) := by
  have deeper : depthAfter? table label 1 inner = some 1 := by
    simpa using depthAfter?_add inside 1
  have ended : last.opens table label = false := last.opens_eq_false_of_closes closed label
  rw [Paired, depthAfter?, if_pos opened, depthAfter?_append, Nat.zero_add, deeper]
  simp [depthAfter?, ended, closed]

/-- An opening bracket that is not closed counts. -/
theorem openAfter_opens (paired : Paired table label rest) (opened : first.opens table label = true)
    (depth : Nat) (left : List Token) : openAfter table label depth (left ++ first :: rest) =
      openAfter table label depth left + 1 := by
  have deeper := depthAfter?_add paired (openAfter table label depth left + 1)
  rw [Nat.zero_add] at deeper
  rw [openAfter_append, openAfter, if_pos opened]
  exact openAfter_of_depthAfter? deeper

/-- All brackets are closed where they are paired. -/
theorem not_opens (whole : Paired table label (left ++ first :: rest)) (paired : Paired table label rest) :
    first.opens table label = false := by
  rw [Bool.eq_false_iff]
  intro opened
  have none : openAfter table label 0 (left ++ first :: rest) = 0 := openAfter_of_depthAfter? whole
  rw [paired.openAfter_opens opened] at none
  omega

/-- The last bracket that is open stands in one place. -/
theorem unique {left' rest' : List Token} {first' : Token} (opened : first.opens table label = true)
    (paired : Paired table label rest) (opened' : first'.opens table label = true)
    (paired' : Paired table label rest') (same : left ++ first :: rest = left' ++ first' :: rest') :
    left = left' ∧ first = first' ∧ rest = rest' := by
  rcases List.append_eq_append_iff.mp same with ⟨more, rfl, shape⟩ | ⟨more, rfl, shape⟩
  · cases more with
    | nil => simpa using shape
    | cons token further =>
      obtain ⟨rfl, rfl⟩ := List.cons.inj shape
      exact absurd opened' (by simp [paired.not_opens paired'])
  · cases more with
    | nil => simpa [eq_comm] using shape
    | cons token further =>
      obtain ⟨rfl, rfl⟩ := List.cons.inj shape
      exact absurd opened (by simp [paired'.not_opens paired])

end Paired

end PostMarkup.BBCode
