import PostMarkup.Entity.Word
import PostMarkup.Reference.Reader
import PostMarkup.Text.Ascii
import PostMarkup.Text.Lines
import PostMarkup.Unicode.Casing

/-! # Web addresses in running text

An address is a scheme, a host and what follows it up to a blank, a quote, an angle bracket or a
character of an East Asian script. Punctuation, references to an ampersand and closing brackets
without a partner at its end belong to the sentence around it. Without a scheme the host must look
like a domain.
-/

namespace PostMarkup.Address

open PostMarkup.Text PostMarkup.Unicode

/-- Whether a character belongs to the scripts that end an address. -/
def isEastAsian (c : Char) : Bool :=
  (0x3000 ≤ c.toNat && c.toNat ≤ 0x9fff) || (0xff00 ≤ c.toNat && c.toNat ≤ 0xffef) ||
    (0xac00 ≤ c.toNat && c.toNat ≤ 0xd7af)

def fitsHost (c : Char) : Bool :=
  (isAlphanumeric c && !isEastAsian c) || c = '.' || c = '-' || c = '_'

/-- The references that end an address in markup. -/
def closingReferences : List (List Char) := ["&lt;".toList, "&gt;".toList, "&quot;".toList]

def continues (form : TextForm) : List Char → Bool
  | [] => false
  | c :: rest =>
    if isBlank c || c = '<' || c = '>' || c = '"' || c = '\'' || isEastAsian c then false
    else if form = .html ∧ c = '&' then
      !closingReferences.any fun reference => startsIgnoringCase reference (c :: rest)
    else isGraphic c || isAlphanumeric c

/-- The characters at the start of a text that continue an address. -/
def run (form : TextForm) : List Char → List Char
  | [] => []
  | c :: rest => if continues form (c :: rest) then c :: run form rest else []

/-- Whether a character is punctuation that does not end an address. -/
def isTrailing (c : Char) : Bool :=
  c = '.' || c = ',' || c = ';' || c = ':' || c = '!' || c = '?' || c = '*'

/-- The pairs of brackets that an address may hold. -/
def brackets : List (Char × Char) := [('(', ')'), ('[', ']'), ('\x7b', '\x7d')]

/-- An address, kept last character first, without the closing brackets at its end that have no
partner, where `opens` and `closes` count the brackets in all of it. -/
def dropUnpaired (close : Char) (opens : Nat) : (closes : Nat) → List Char → List Char
  | _, [] => []
  | closes, c :: rest =>
    if c = close ∧ opens < closes then dropUnpaired close opens (closes - 1) rest else c :: rest

/-- An address, kept last character first, without unpaired closing brackets of one pair. -/
def trimBracket (address : List Char) (pair : Char × Char) : List Char :=
  dropUnpaired pair.2 (address.count pair.1) (address.count pair.2) address

/-- One round of trimming punctuation and then each pair of brackets. -/
def trimOnce (address : List Char) : List Char :=
  brackets.foldl trimBracket (address.dropWhile isTrailing)

/-- An address, kept last character first, without what belongs to the sentence around it. -/
def trimReversed (form : TextForm) (address : List Char) : List Char :=
  if form = .html ∧ endsInAmpersand address then trimReversed form (address.drop 5)
  else if (trimOnce address).length < address.length then trimReversed form (trimOnce address)
  else address
termination_by address.length
decreasing_by
  · rename_i ends
    cases address with
    | nil => exact absurd ends.2 (by decide)
    | cons c rest => simp only [List.length_cons, List.length_drop]; omega
  · assumption

/-- An address without what belongs to the sentence around it. -/
def trim (form : TextForm) (address : List Char) : List Char :=
  (trimReversed form address.reverse).reverse

/-- The last labels of domains that are recognized without a scheme. -/
def knownTopLevels : List String :=
  ["com", "net", "org", "edu", "gov", "info", "io", "dev", "app", "jp", "uk", "de", "fr", "us",
    "ca", "au", "social", "online", "xyz", "me", "tv", "co"]

/-- Whether a host looks like a domain: it starts with www and has a further dot, or a known last
label follows a nonempty name. -/
def looksLikeDomain (host : List Char) : Bool :=
  let small := lowercase host
  match "www.".toList.isPrefixOf? small with
  | some (c :: rest) => (c :: rest).contains '.'
  | _ =>
    match cutAt? '.' small.reverse with
    | some (label, name) => !name.isEmpty && knownTopLevels.contains (String.ofList label.reverse)
    | none => false

/-- Whether the text before an address keeps it from starting there. -/
def blockedBy (before : List Char) : Bool :=
  before.head?.any fun c =>
    isAlphanumeric c || c = '@' || c = '/' || c = '#' || c = '$' || c = '.' || c = '-' || c = '_'

/-- The length of the scheme at the start of a text, zero if the address may start with its
host. -/
def schemeLength? (bare : Bool) (text : List Char) : Option Nat :=
  if startsIgnoringCase "https://".toList text then some 8
  else if startsIgnoringCase "http://".toList text then some 7
  else if bare && text.head?.any Char.isAlphanum then some 0
  else none

def host (text : List Char) : List Char :=
  dropEndWhile (fun c => c = '.' || c = '-') (text.takeWhile fitsHost)

/-- The address at the start of a text as it is written there; `bare` allows addresses without a
scheme, and `before` is the text before it, nearest character first. -/
def read? (form : TextForm) (bare : Bool) (before text : List Char) : Option (List Char) :=
  if blockedBy before then none
  else (schemeLength? bare text).bind fun scheme =>
    let site := host (text.drop scheme)
    if site.isEmpty || (scheme = 0 && !looksLikeDomain site) then none
    else
      let upToHost := scheme + site.length
      let address := trim form (text.take upToHost ++ run form (text.drop upToHost))
      if address.length ≤ scheme then none else some address

end PostMarkup.Address
