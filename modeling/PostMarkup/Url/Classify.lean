import PostMarkup.Text.Blank
import PostMarkup.Url.Host

/-! # Absolute and relative addresses

An address with a scheme is absolute, and then its authority has to be well formed. An address
without a scheme is relative.
-/

namespace PostMarkup.Url

open PostMarkup.Text

/-- What a text is as an address. -/
inductive Kind where
  | absolute (scheme : List Char)
  | relative
  | invalid
deriving DecidableEq, Repr

/-- The schemes of the web, whose addresses always have a host. -/
def webSchemes : List (List Char) :=
  ["http".toList, "https".toList, "ws".toList, "wss".toList, "ftp".toList]

def fileScheme : List Char := "file".toList

def isSchemeChar (c : Char) : Bool := c.isAlphanum || c = '+' || c = '-' || c = '.'

/-- The scheme of a text in small letters, and the text after its colon. -/
def cutScheme? (text : List Char) : Option (List Char × List Char) :=
  let scheme := text.takeWhile isSchemeChar
  match text.drop scheme.length with
  | ':' :: rest => if scheme.head?.any Char.isAlpha then some (lowerAscii scheme, rest) else none
  | _ => none

/-- Whether a character is a slash, or a backslash on the web. -/
def isSlash (web : Bool) (c : Char) : Bool := c = '/' || (web && c = '\\')

def endsAuthority (web : Bool) (c : Char) : Bool := isSlash web c || c = '?' || c = '#'

/-- Whether a text starts with the number of a service, at most 65535 or nothing, that a backslash
or the end of the text ends. -/
def isServiceNumber (text : List Char) : Bool :=
  let digits := text.takeWhile Char.isDigit
  (digits.isEmpty || (numeral? 10 digits).any (· ≤ 65535)) &&
    (text.drop digits.length).head?.all (· = '\\')

/-- The host of an authority without user information, and the text from its colon on; a colon
inside brackets belongs to the host. -/
def cutService (inBrackets : Bool) : List Char → List Char × List Char
  | [] => ([], [])
  | c :: rest =>
    if c = ':' ∧ ¬inBrackets then ([], c :: rest)
    else
      let within := if c = '[' then true else if c = ']' then false else inBrackets
      let (host, service) := cutService within rest
      (c :: host, service)

/-- The authority of an address after its last at sign, and the user information before it. -/
def cutUser (authority : List Char) : List Char × Option (List Char) :=
  match cutAt? '@' authority.reverse with
  | some (site, user) => (site.reverse, some user.reverse)
  | none => (authority, none)

/-- Whether the text from the colon of an authority on writes the number of a service. -/
def isServicePart : List Char → Bool
  | ':' :: number => isServiceNumber number
  | _ => true

/-- Whether user information may come before no host at all: it is a lone colon, or it is empty and
the address ends with it. -/
def mayLackHost (ended : Bool) : Option (List Char) → Bool
  | none => true
  | some user => user = [':'] || (user.isEmpty && ended)

def isWebAuthority (authority : List Char) : Bool :=
  let (host, service) := cutService false (cutUser authority).1
  isHost host && isServicePart service

/-- Whether a text is the authority of an address with a scheme of its own rules; `ended` says
whether the address ends with it. -/
def isOpaqueAuthority (ended : Bool) (authority : List Char) : Bool :=
  let (site, user) := cutUser authority
  let (host, service) := cutService false site
  if host.isEmpty then mayLackHost ended user && service.isEmpty
  else isOpaqueHost host && isServicePart service

def isDrive : List Char → Bool
  | [letter, mark] => letter.isAlpha && (mark = ':' || mark = '|')
  | _ => false

def isFileHost (host : List Char) : Bool := host.isEmpty || isDrive host || isHost host

/-- The text without what surrounds an address and without the line ends and tabs inside it. -/
def clean (text : List Char) : List Char :=
  (dropBothWhile (fun c => c.toNat ≤ 0x20) text).filter fun c =>
    c ≠ '\t' && c ≠ '\n' && c ≠ '\r'

def afterSlashes? (web : Bool) : List Char → Option (List Char)
  | first :: second :: rest => if isSlash web first && isSlash web second then some rest else none
  | _ => none

/-- Whether the text after the colon of a scheme completes an address. -/
def isComplete (scheme rest : List Char) : Bool :=
  let authority (web : Bool) (text : List Char) := text.takeWhile fun c => !endsAuthority web c
  if webSchemes.contains scheme then
    isWebAuthority (authority true (rest.dropWhile (isSlash true)))
  else if scheme = fileScheme then
    (afterSlashes? true rest).all fun after => isFileHost (authority true after)
  else
    (afterSlashes? false rest).all fun after =>
      isOpaqueAuthority (authority false after = after) (authority false after)

def classify (text : List Char) : Kind :=
  match cutScheme? (clean text) with
  | none => .relative
  | some (scheme, rest) => if isComplete scheme rest then .absolute scheme else .invalid

def isAbsolute (text : List Char) : Bool := classify text matches .absolute _

end PostMarkup.Url
