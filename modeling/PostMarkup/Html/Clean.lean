import PostMarkup.Html.Nesting
import PostMarkup.Html.Policy
import PostMarkup.Html.Tree
import PostMarkup.Url.Classify

/-! # Cleaning HTML under a policy

The tree of a source is kept as far as the policy allows. The content of an element that is not
kept takes its place; removed whole are scripts, styles and what may not stand in the element around
it that is kept. An attribute that holds an address is kept if the address is relative or has a
scheme of the policy.
-/

namespace PostMarkup.Html

open PostMarkup

def holdsAddress (element name : String) : Bool :=
  ["href", "src", "xlink:href"].contains name ||
    [("form", "action"), ("object", "data"), ("button", "formaction"), ("input", "formaction"),
      ("a", "ping"), ("video", "poster")].contains (element, name)

def allowsAddress (policy : Policy) (address : List Char) : Bool :=
  match Url.classify address with
  | .absolute scheme => policy.schemes.contains (String.ofList scheme)
  | .relative => true
  | .invalid => false

def keepsAttribute (policy : Policy) (element : String) (written : Attribute) : Bool :=
  if ((Policy.lookup? policy.attributes element).getD []).contains written.name then
    !holdsAddress element written.name || allowsAddress policy written.value
  else written.name = "class" && (Policy.lookup? policy.classes element).isSome

def isWordSpace (c : Char) : Bool := isTagSpace c || c = '\r'

def words : List Char → List (List Char)
  | [] => []
  | c :: rest =>
    if isWordSpace c then words rest
    else match rest with
      | [] => [[c]]
      | next :: _ =>
        if isWordSpace next then [c] :: words rest
        else match words rest with
          | first :: others => (c :: first) :: others
          | [] => [[c]]

/-- An attribute of an element as it stays: of its classes only those that are kept. -/
def filterClasses (policy : Policy) (element : String) (written : Attribute) : Attribute :=
  match Policy.lookup? policy.classes element with
  | some kept =>
    if written.name = "class" then
      let classes := (words written.value).filter fun word => kept.contains (String.ofList word)
      { written with value := Text.joinWith ' ' classes }
    else written
  | none => written

/-- The attributes of an element as they stay, with the relation that a link gets. -/
def cleanAttributes (policy : Policy) (element : String) (attributes : List Attribute) :
    List Attribute :=
  let kept := (attributes.filter (keepsAttribute policy element)).map
    (filterClasses policy element)
  match policy.linkRelation with
  | some relation => if element = "a" then kept ++ [{ name := "rel", value := relation }] else kept
  | none => kept

mutual

def Node.clean (policy : Policy) (parent : ElementName) : Node → List Node
  | .char c => [.char c]
  | .element name attributes children =>
    if Policy.removedElements.contains name.name || !parent.mayHold name then []
    else if policy.elements.contains name.name then
      let inner := if name.isNamed "template" then [] else Node.cleanAll policy name children
      [.element name (cleanAttributes policy name.name attributes) inner]
    else if name.isNamed "template" then []
    else Node.cleanAll policy parent children

def Node.cleanAll (policy : Policy) (parent : ElementName) : List Node → List Node
  | [] => []
  | node :: rest => node.clean policy parent ++ Node.cleanAll policy parent rest

end

/-- HTML made safe under a policy. -/
def sanitize : Sanitizer := fun policy source =>
  match policy.error? with
  | some error => .error error
  | none => .ok (Node.writeAll false (Node.cleanAll policy rootName (parseFragment source)))

end PostMarkup.Html
