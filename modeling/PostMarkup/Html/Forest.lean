import Std.Data.TreeMap
import PostMarkup.Html.Attribute

/-! # Trees in the making

While a source is read, nodes are moved from one parent to another. So each node has a number, in
the order in which they are made, and knows its parent and its children by their numbers. The first
node is the root.
-/

namespace PostMarkup.Html

inductive Content where
  | char (c : Char)
  | element (name : ElementName) (attributes : List Attribute)

structure Cell where
  content : Content
  parent : Option Nat
  /-- The numbers of the children, last one first. -/
  children : List Nat

structure Forest where
  cells : Std.TreeMap Nat Cell

namespace Forest

def root : Nat := 0

def start : Forest := ⟨Std.TreeMap.empty.insert root ⟨.element rootName [], none, []⟩⟩

/-- A forest with a further node, which has no parent yet, and its number. -/
def add (forest : Forest) (content : Content) : Forest × Nat :=
  (⟨forest.cells.insert forest.cells.size ⟨content, none, []⟩⟩, forest.cells.size)

def parent? (forest : Forest) (number : Nat) : Option Nat :=
  (forest.cells[number]?).bind Cell.parent

/-- The children of a node, last one first. -/
def children (forest : Forest) (number : Nat) : List Nat :=
  ((forest.cells[number]?).map Cell.children).getD []

def attributes (forest : Forest) (number : Nat) : List Attribute :=
  match (forest.cells[number]?).map Cell.content with
  | some (.element _ attributes) => attributes
  | _ => []

def setChildren (forest : Forest) (number : Nat) (children : List Nat) : Forest :=
  ⟨forest.cells.modify number fun cell => { cell with children }⟩

def setParent (forest : Forest) (number : Nat) (parent : Option Nat) : Forest :=
  ⟨forest.cells.modify number fun cell => { cell with parent }⟩

def detach (forest : Forest) (number : Nat) : Forest :=
  match forest.parent? number with
  | some parent =>
    (forest.setChildren parent ((forest.children parent).erase number)).setParent number none
  | none => forest

/-- A forest in which a node is the last child of another one. -/
def append (forest : Forest) (parent number : Nat) : Forest :=
  let free := forest.detach number
  (free.setChildren parent (number :: free.children parent)).setParent number (some parent)

/-- Children, last one first, with a further one before one of them. -/
def childrenWith (number sibling : Nat) : List Nat → List Nat
  | [] => []
  | child :: rest =>
    if child = sibling then child :: number :: rest else child :: childrenWith number sibling rest

/-- A forest in which a node comes just before one that has a parent. -/
def insertBefore (forest : Forest) (sibling number : Nat) : Forest :=
  let free := forest.detach number
  match free.parent? sibling with
  | some parent =>
    (free.setChildren parent (childrenWith number sibling (free.children parent))).setParent
      number (some parent)
  | none => free

def moveChildren (forest : Forest) (source target : Nat) : Forest :=
  (forest.children source).reverse.foldl (fun moved child => moved.append target child) forest

end Forest

end PostMarkup.Html
