import PostMarkup.Settings
import PostMarkup.Toml.Document

/-! # Settings in a document

A document sets some of the settings by their keys. Other keys are passed over, and a value of the
wrong kind makes the whole document unusable.
-/

namespace PostMarkup.Settings

open PostMarkup.Toml

/-- Settings of which each is given or left at its default. -/
structure Given where
  baseUrl : Option (List Char)
  localDomain : Option (List Char)
  shownLength : Option Nat
  linkBareDomains : Option Bool
  animatedEmoji : Option Bool
deriving DecidableEq, Repr

/-- The settings with defaults where none is given. -/
def ofGiven (given : Given) : Settings :=
  let default : Settings := {}
  { baseUrl := given.baseUrl.getD default.baseUrl
    localDomain := given.localDomain.getD default.localDomain
    shownLength := given.shownLength.getD default.shownLength
    linkBareDomains := given.linkBareDomains.getD default.linkBareDomains
    animatedEmoji := given.animatedEmoji.getD default.animatedEmoji }

/-- The setting under a key: none given, or one of the right kind; none at all if the kind is
wrong. -/
def setting? {α : Type} (entries : Entries) (key : String) (read? : Value → Option α) :
    Option (Option α) :=
  match entries.get? key.toList with
  | none => some none
  | some (.value value) => (read? value).map some
  | some _ => none

def textOf? : Value → Option (List Char)
  | .string text => some text
  | _ => none

def countOf? : Value → Option Nat
  | .integer (.ofNat count) => some count
  | _ => none

def choiceOf? : Value → Option Bool
  | .boolean choice => some choice
  | _ => none

def ofEntries? (entries : Entries) : Option Settings := do
  let baseUrl ← setting? entries "base_url" textOf?
  let localDomain ← setting? entries "local_domain" textOf?
  let shownLength ← setting? entries "url_display_limit" countOf?
  let linkBareDomains ← setting? entries "extract_url_without_protocol" choiceOf?
  let animatedEmoji ← setting? entries "animate_emoji" choiceOf?
  return ofGiven ⟨baseUrl, localDomain, shownLength, linkBareDomains, animatedEmoji⟩

def ofDocument? (document : List Char) : Option Settings :=
  (Toml.read? document).bind ofEntries?

end PostMarkup.Settings
