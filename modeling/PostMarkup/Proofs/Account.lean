import Mathlib.Data.List.Forall2
import PostMarkup.Account
import PostMarkup.Proofs.Text.Lines
import PostMarkup.Proofs.Unicode.Casing

/-! # Names of accounts

The domain of this server means the same as no domain, in whatever case it is written. So a mention finds the same
account whether the accounts or the mention name this domain or not, and the account that a name describes is found
under this name.
-/

namespace PostMarkup

open PostMarkup.Text PostMarkup.Unicode

namespace Account

variable {localDomain user domain name : List Char} {left right : Account}

/-- Whether a domain is that of this server: it is missing, or it differs from that domain in case only. -/
def IsHere (localDomain : List Char) (domain : Option (List Char)) : Prop :=
  ∀ written ∈ domain, lowercase written = lowercase localDomain

/-- Whether two accounts with a user name are the same but for how the domain of this server is written. -/
def Respelled (localDomain : List Char) (left right : Account) : Prop :=
  left = right ∨
    ∃ domain, right = { left with domain } ∧ IsHere localDomain left.domain ∧ IsHere localDomain domain

theorem normalizeName_user (plain : '@' ∉ user) : normalizeName localDomain user = lowercase user := by
  cases cut : cutAt? '@' (lowercase user) with
  | none => simp [normalizeName, cut]
  | some parts =>
    have held : '@' ∈ lowercase user := by
      rw [eq_of_cutAt? cut]
      simp
    exact absurd held (at_not_mem_lowercase plain)

/-- A name with a domain is normalized part by part. -/
theorem normalizeName_append (plain : '@' ∉ user) (domain : List Char) :
    normalizeName localDomain (user ++ '@' :: domain) =
      if lowercase domain = lowercase localDomain then lowercase user else lowercase user ++ '@' :: lowercase domain := by
  rw [normalizeName, at_separates.lowercase_append]
  simp only [cutAt?_of_not_mem (at_not_mem_lowercase plain)]

/-- The domain of this server may be left out of a name or added to it. -/
theorem normalizeName_here (plain : '@' ∉ user) (here : lowercase domain = lowercase localDomain) :
    normalizeName localDomain (user ++ '@' :: domain) = normalizeName localDomain user := by
  rw [normalizeName_append plain, if_pos here, normalizeName_user plain]

/-- An account of this server is known by its user name. -/
theorem normalizeName_of_isHere {account : Account} (plain : '@' ∉ account.username)
    (here : IsHere localDomain account.domain) :
    normalizeName localDomain account.name = normalizeName localDomain account.username := by
  unfold name
  split
  · rename_i domain written
    exact normalizeName_here plain (here domain written)
  · rfl

theorem Respelled.link_eq (respelled : Respelled localDomain left right) : right.link = left.link := by
  rcases respelled with rfl | ⟨domain, rfl, _⟩
  · rfl
  · rfl

theorem Respelled.sameName_eq (plain : '@' ∉ left.username) (respelled : Respelled localDomain left right)
    (name : List Char) : sameName localDomain right.name name = sameName localDomain left.name name := by
  rcases respelled with rfl | ⟨domain, rfl, here, here'⟩
  · rfl
  · have before := normalizeName_of_isHere plain here
    have after : normalizeName localDomain { left with domain }.name = normalizeName localDomain left.username :=
      normalizeName_of_isHere plain here'
    rw [sameName, sameName, before, after]

/-- The account that a name describes has this name, without the at signs before it. -/
theorem sameName_ofName (localDomain name url : List Char) :
    sameName localDomain (ofName localDomain name url).name (name.dropWhile (· = '@')) = true := by
  rw [sameName, beq_iff_eq]
  generalize bare : name.dropWhile (· = '@') = written
  cases cut : cutAt? '@' written with
  | none =>
    have account : ofName localDomain name url = onThisServer written url := by simp [ofName, bare, cut]
    rw [account]
    rfl
  | some parts =>
    obtain ⟨user, domain⟩ := parts
    obtain rfl := eq_of_cutAt? cut
    cases same : sameIgnoringCase domain localDomain with
    | true =>
      have account : ofName localDomain name url = onThisServer user url := by simp [ofName, bare, cut, same]
      rw [account]
      exact (normalizeName_here (not_mem_of_cutAt? cut) (lowercase_eq_of_sameIgnoringCase same)).symm
    | false =>
      have account : ofName localDomain name url = onServer user domain url := by simp [ofName, bare, cut, same]
      rw [account]
      rfl

end Account

namespace Resolver

open PostMarkup.Account

variable {localDomain domain name : List Char} {left right : List Account}

/-- Accounts are found in their order, however the domain of this server is written in them. -/
theorem ofAccounts_respelled (plain : ∀ account ∈ left, '@' ∉ account.username)
    (respelled : List.Forall₂ (Respelled localDomain) left right) (name : List Char) :
    ofAccounts localDomain right name = ofAccounts localDomain left name := by
  unfold ofAccounts
  induction respelled with
  | nil => rfl
  | @cons first other _ _ same _ ih =>
    obtain ⟨plain', others⟩ := List.forall_mem_cons.mp plain
    have alike := same.sameName_eq plain' name
    rw [List.find?_cons, List.find?_cons, alike]
    cases sameName localDomain first.name name with
    | true => exact congrArg some same.link_eq
    | false => exact ih others

/-- The domain of this server may be added to the name of a mention. -/
theorem ofAccounts_here (accounts : List Account) (plain : '@' ∉ name)
    (here : lowercase domain = lowercase localDomain) :
    ofAccounts localDomain accounts (name ++ '@' :: domain) = ofAccounts localDomain accounts name := by
  have same (account : Account) : sameName localDomain account.name (name ++ '@' :: domain) =
      sameName localDomain account.name name := by
    rw [sameName, sameName, normalizeName_here plain here]
  simp only [ofAccounts, same]

/-- The account that a mention finds does not depend on how the domain of this server is written, in the accounts
or in the mention, and an account is found under the name that describes it. -/
theorem ofAccounts_spelling (localDomain : List Char) :
    (∀ left right : List Account, (∀ account ∈ left, '@' ∉ account.username) →
      List.Forall₂ (Respelled localDomain) left right →
        ∀ name, ofAccounts localDomain right name = ofAccounts localDomain left name) ∧
    (∀ (accounts : List Account) (name domain : List Char), '@' ∉ name →
      lowercase domain = lowercase localDomain →
        ofAccounts localDomain accounts (name ++ '@' :: domain) = ofAccounts localDomain accounts name) ∧
    ∀ name url : List Char,
      sameName localDomain (ofName localDomain name url).name (name.dropWhile (· = '@')) = true :=
  ⟨fun _ _ plain respelled => ofAccounts_respelled plain respelled,
    fun accounts _ _ plain here => ofAccounts_here accounts plain here, sameName_ofName localDomain⟩

/-- A capital sigma has another small letter at the end of a word, in the user name and in the domain alike. -/
theorem ofAccounts_spelling_sigma :
    let domain := "gr.ΟΣ".toList
    let left := [Account.onThisServer "ΣΑΣ".toList "u".toList]
    let right := [Account.onServer "ΣΑΣ".toList "GR.ος".toList "u".toList]
    (∀ account ∈ left, '@' ∉ account.username) ∧ List.Forall₂ (Respelled domain) left right ∧
      lowercase "gr.ος".toList = lowercase domain ∧
      ofAccounts domain right "σας".toList = ofAccounts domain left "σας".toList ∧
      ofAccounts domain left ("σας".toList ++ '@' :: "gr.ος".toList) = ofAccounts domain left "σας".toList ∧
      ofAccounts domain left "σας".toList = some ⟨"ΣΑΣ".toList, "u".toList⟩ ∧
      ofAccounts domain left "σας@b.c".toList = none := by
  intro domain left right
  have plain : ∀ account ∈ left, '@' ∉ account.username := by decide
  have here : lowercase "gr.ος".toList = lowercase domain := by decide
  have here' : lowercase "GR.ος".toList = lowercase domain := by decide
  have respelled : List.Forall₂ (Respelled domain) left right :=
    .cons (.inr ⟨some "GR.ος".toList, rfl, by rintro _ ⟨⟩, by rintro _ ⟨⟩; exact here'⟩) .nil
  obtain ⟨accounts, mentions, _⟩ := ofAccounts_spelling domain
  exact ⟨plain, respelled, here, accounts left right plain respelled _, mentions left _ _ (by decide) here, by decide,
    by decide⟩

end Resolver

end PostMarkup
