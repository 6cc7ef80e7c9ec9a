import DesignBridge.Table

/-! # Elements

A live element of a document: what it is and shows (its facet), and the elements inside it. The
kind of an element fixes what it can do. Elements are told apart by their numbers.
-/

namespace DesignBridge

/-- What an element can do or hold. -/
inductive Capability where
  | children
  | text
  | attributes
  | styles
  | image
  deriving DecidableEq, Repr

namespace Capability

/-- All capabilities, in alphabetical order of their names. -/
def all : List Capability :=
  [attributes, children, image, styles, text]

def name : Capability → String
  | children => "children"
  | text => "text"
  | attributes => "attributes"
  | styles => "styles"
  | image => "image"

def ofName? (s : String) : Option Capability :=
  all.find? (·.name == s)

end Capability

/-- The kinds of elements. -/
inductive ElementKind where
  | body
  | dom
  | text
  | image
  deriving DecidableEq, Repr, Inhabited

namespace ElementKind

def all : List ElementKind :=
  [body, dom, text, image]

def name : ElementKind → String
  | body => "Body"
  | dom => "DOM"
  | text => "String"
  | image => "Image"

def ofName? (s : String) : Option ElementKind :=
  all.find? (·.name == s)

def can : ElementKind → Capability → Bool
  | body, .children => true
  | body, .styles => true
  | body, _ => false
  | dom, .image => false
  | dom, _ => true
  | text, .text => true
  | text, _ => false
  | image, .image => true
  | image, .attributes => true
  | image, .styles => true
  | image, _ => false

end ElementKind

/-- An element without its children. Styles and the asset are given by their names in the
document's tables. -/
structure Facet where
  id : Nat
  kind : ElementKind
  tag : Option Runes
  attributes : Table Runes
  properties : Table Runes
  text : Option Runes
  styles : List Runes
  asset : Option Runes
  alt : Option Runes
  deriving DecidableEq

namespace Facet

/-- A facet that shows nothing but perhaps a tag. -/
def plain (id : Nat) (kind : ElementKind) (tag : Option Runes) : Facet :=
  ⟨id, kind, tag, .empty, .empty, none, [], none, none⟩

end Facet

/-- An element with all elements inside it. -/
structure Element where
  facet : Facet
  children : List Element

namespace Element

def id (e : Element) : Nat := e.facet.id

def kind (e : Element) : ElementKind := e.facet.kind

def can (e : Element) (c : Capability) : Bool := e.kind.can c

/-- An element without children. -/
def leaf (facet : Facet) : Element := ⟨facet, []⟩

mutual

/-- An element and all elements inside it, in document order. -/
def preorder : Element → List Element
  | ⟨facet, children⟩ => ⟨facet, children⟩ :: preorderAll children

/-- The elements of some trees, in document order. -/
def preorderAll : List Element → List Element
  | [] => []
  | e :: rest => preorder e ++ preorderAll rest

end

/-- A facet as it stands in a tree: with the number of the parent and the depth. -/
structure Placed where
  facet : Facet
  parent : Option Nat
  depth : Nat
  deriving DecidableEq

mutual

/-- The facets of a tree in document order. -/
def placed (parent : Option Nat) (depth : Nat) : Element → List Placed
  | ⟨facet, children⟩ => ⟨facet, parent, depth⟩ :: placedAll (some facet.id) (depth + 1) children

/-- The facets of some trees in document order. -/
def placedAll (parent : Option Nat) (depth : Nat) : List Element → List Placed
  | [] => []
  | e :: rest => placed parent depth e ++ placedAll parent depth rest

end

mutual

/-- Applies a function to the element with a number. Elements inside it are left alone. -/
def modify (id : Nat) (f : Element → Element) : Element → Element
  | ⟨facet, children⟩ =>
    if facet.id = id then f ⟨facet, children⟩ else ⟨facet, modifyAll id f children⟩

/-- Applies a function to the element with a number, in each of some trees. -/
def modifyAll (id : Nat) (f : Element → Element) : List Element → List Element
  | [] => []
  | e :: rest => modify id f e :: modifyAll id f rest

end

/-- Puts a new child after the others. -/
def append (e child : Element) : Element :=
  { e with children := e.children ++ [child] }

/-- Applies a function to the facet of an element. -/
def mapFacet (f : Facet → Facet) (e : Element) : Element :=
  { e with facet := f e.facet }

end Element

end DesignBridge
