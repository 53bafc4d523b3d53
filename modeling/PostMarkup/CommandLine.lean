import PostMarkup.Html.Clean
import PostMarkup.Renderer
import PostMarkup.Settings.Document
import PostMarkup.Url.Classify

/-! # The command line

The arguments name an input, say what it is and give the emoji and accounts it may use. What is
read from files and from the standard input comes in as text.
-/

namespace PostMarkup.CommandLine

open PostMarkup.Text

/-- What the arguments ask for. -/
structure Options where
  /-- The file to read, the standard input if there is none. -/
  input : Option (List Char) := none
  /-- Whether the input is HTML of another server. -/
  remote : Bool := false
  /-- Whether the input is a content warning. -/
  spoiler : Bool := false
  /-- Whether the input is a biography. -/
  bio : Bool := false
  /-- Whether shortcodes stay as they are. -/
  noEmoji : Bool := false
  /-- Shortcodes with their images. -/
  emojis : List (List Char × List Char) := []
  /-- Names of accounts with their addresses. -/
  accounts : List (List Char × List Char) := []
  /-- The file with the settings. -/
  config : Option (List Char) := none
deriving DecidableEq, Repr

/-- A nonempty key and a nonempty value around the first equals sign. -/
def pair? (text : List Char) : Option (List Char × List Char) :=
  (cutAt? '=' text).filter fun (key, value) => !key.isEmpty && !value.isEmpty

/-- A switch that is turned on, which may happen once. -/
def turnOn? (switch : Bool) : Option Bool := if switch then none else some true

def switch? (options : Options) (name : String) : Option Options :=
  if name = "remote" then
    (turnOn? options.remote).map fun value => { options with remote := value }
  else if name = "spoiler" then
    (turnOn? options.spoiler).map fun value => { options with spoiler := value }
  else if name = "bio" then
    (turnOn? options.bio).map fun value => { options with bio := value }
  else if name = "no-emoji" then
    (turnOn? options.noEmoji).map fun value => { options with noEmoji := value }
  else none

def takesValue (name : String) : Bool := ["emoji", "account", "config"].contains name

def assign? (options : Options) (name : String) (value : List Char) : Option Options :=
  if name = "emoji" then
    (pair? value).map fun pair => { options with emojis := options.emojis ++ [pair] }
  else if name = "account" then
    (pair? value).map fun pair => { options with accounts := options.accounts ++ [pair] }
  else if name = "config" ∧ options.config.isNone ∧ ¬value.isEmpty then
    some { options with config := some value }
  else none

/-- Options with an input file, of which there may be one. -/
def position? (options : Options) (path : List Char) : Option Options :=
  if options.input.isNone ∧ ¬path.isEmpty then some { options with input := some path } else none

/-- Whether an argument is an option and not a value: a hyphen and something after it. -/
def isOption (argument : List Char) : Bool := argument.head? = some '-' && 2 ≤ argument.length

/-- The options of the arguments after those that gave `options`. -/
def readFrom? (options : Options) : List (List Char) → Option Options
  | [] => some options
  | argument :: rest =>
    match "--".toList.isPrefixOf? argument with
    | some [] => rest.foldlM position? options
    | some name =>
      match cutAt? '=' name with
      | some (before, value) =>
        if takesValue (String.ofList before) then
          (assign? options (String.ofList before) value).bind fun changed => readFrom? changed rest
        else none
      | none =>
        if takesValue (String.ofList name) then
          match rest with
          | value :: others =>
            if isOption value then none
            else (assign? options (String.ofList name) value).bind fun changed =>
              readFrom? changed others
          | [] => none
        else (switch? options (String.ofList name)).bind fun changed => readFrom? changed rest
    | none =>
      if isOption argument then none
      else (position? options argument).bind fun changed => readFrom? changed rest

/-- The options that arguments give; a content warning is no biography. -/
def read? (arguments : List (List Char)) : Option Options :=
  (readFrom? {} arguments).filter fun options => !(options.spoiler && options.bio)

/-- Why nothing is rendered though the arguments are understood. -/
inductive Failure where
  /-- The settings cannot be read from a file. -/
  | settings (path : List Char)
  /-- An input file cannot be read. -/
  | file (path : List Char)
  /-- The standard input is not text. -/
  | standardInput
  /-- The input has no rendering. -/
  | refused (fault : Fault)
deriving DecidableEq, Repr

namespace Failure

def message : Failure → List Char
  | settings path => "failed to load config ".toList ++ path
  | file path => "failed to read ".toList ++ path
  | standardInput => "failed to read stdin".toList
  | refused _ => "failed to render the input".toList

end Failure

/-- The renderer of some settings with the sanitizer, the addresses and the tags of this library. -/
def rendererOf (settings : Settings) : Renderer :=
  ⟨settings, Html.sanitize, Url.isAbsolute, BBCode.render BBCode.Table.builtin⟩

/-- The account that is taken to have written the input. -/
def author (options : Options) (settings : Settings) (emojis : List CustomEmoji) : Account :=
  let url := settings.origin ++ "/@cli".toList
  let account :=
    if options.remote then Account.onServer "cli".toList "remote.invalid".toList url
    else Account.onThisServer "cli".toList url
  { account with emojis := emojis }

def render (options : Options) (settings : Settings) (source : List Char) :
    Except Fault (List Char) :=
  let renderer := rendererOf settings
  let emojis := options.emojis.map fun (code, url) => (⟨code, url, url⟩ : CustomEmoji)
  let accounts := options.accounts.map fun (name, url) =>
    Account.ofName settings.localDomain name url
  let writer := author options settings emojis
  if options.bio then
    renderer.noteHtml (!options.noEmoji) (.ofAccounts settings.localDomain accounts)
      { writer with note := source }
  else
    let post : Post :=
      { text := if options.spoiler then [] else source
        warning := if options.spoiler then source else []
        isLocal := !options.remote, author := writer, mentions := accounts, emojis }
    if options.spoiler then .ok (renderer.warningHtml post)
    else renderer.statusHtml (!options.noEmoji) ⟨post, none⟩

/-- The output for some options, where `file?` gives the text of files and `standardInput?` the
text of the standard input. The settings are read before the input. -/
def run (options : Options) (file? : List Char → Option (List Char))
    (standardInput? : Option (List Char)) : Except Failure (List Char) := do
  let settings ← match options.config with
    | none => .ok {}
    | some path =>
      match (file? path).bind Settings.ofDocument? with
      | some settings => .ok settings
      | none => .error (.settings path)
  let source ← match options.input with
    | some path =>
      match file? path with
      | some source => .ok source
      | none => .error (.file path)
    | none =>
      match standardInput? with
      | some source => .ok source
      | none => .error .standardInput
  match render options settings source with
  | .ok output => .ok output
  | .error fault => .error (.refused fault)

end PostMarkup.CommandLine
