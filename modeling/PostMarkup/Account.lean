import PostMarkup.Emoji
import PostMarkup.Text.Ascii
import PostMarkup.Text.Lines
import PostMarkup.Unicode.Casing

/-! # Accounts

An account of this server has no domain. Account names are compared in small letters, where the
domain of this server means the same as no domain.
-/

namespace PostMarkup

open PostMarkup.Text

structure Account where
  username : List Char
  /-- The server of the account, none for this server. -/
  domain : Option (List Char)
  url : List Char
  displayName : List Char
  note : List Char
  emojis : List CustomEmoji
deriving DecidableEq, Repr

structure AccountLink where
  username : List Char
  url : List Char
deriving DecidableEq, Repr

namespace Account

/-- An account of this server without a profile. -/
def onThisServer (username url : List Char) : Account := ⟨username, none, url, [], [], []⟩

/-- An account of another server without a profile. -/
def onServer (username domain url : List Char) : Account := ⟨username, some domain, url, [], [], []⟩

def isLocal (account : Account) : Bool := account.domain.isNone

/-- The name of an account: its user name, and its domain if it has one. -/
def name (account : Account) : List Char :=
  match account.domain with
  | some domain => account.username ++ '@' :: domain
  | none => account.username

def link (account : Account) : AccountLink := ⟨account.username, account.url⟩

/-- A name in small letters without the domain of this server. -/
def normalizeName (localDomain name : List Char) : List Char :=
  let small := Unicode.lowercase name
  match cutAt? '@' small with
  | some (user, domain) => if domain = Unicode.lowercase localDomain then user else small
  | none => small

def sameName (localDomain left right : List Char) : Bool :=
  normalizeName localDomain left == normalizeName localDomain right

/-- The account that a name and an address describe on a server with the given domain. -/
def ofName (localDomain name url : List Char) : Account :=
  let bare := name.dropWhile (· = '@')
  match cutAt? '@' bare with
  | some (user, domain) =>
    if sameIgnoringCase domain localDomain then onThisServer user url else onServer user domain url
  | none => onThisServer bare url

end Account

/-- A way to find the account that a mention names. -/
abbrev Resolver := List Char → Option AccountLink

namespace Resolver

def knowsNone : Resolver := fun _ => none

/-- Knows some accounts; the first one with the name is found. -/
def ofAccounts (localDomain : List Char) (accounts : List Account) : Resolver := fun name =>
  (accounts.find? fun account => Account.sameName localDomain account.name name).map Account.link

end Resolver

end PostMarkup
