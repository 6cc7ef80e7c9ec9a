import DesignBridge.Design.Node
import DesignBridge.Document.Element

/-! # Sketches

A sketch is an element under construction, with the elements that it will hold. It has no numbers
and belongs to no document until it is placed; placing numbers an element before the elements
inside it.
-/

namespace DesignBridge

/-- Why a call on the document is refused. -/
inductive DesignError where
  /-- The element is of a kind that lacks a capability. -/
  | unsupported (kind : ElementKind) (capability : Capability)
  /-- A sketch of this kind holds no elements. -/
  | childless (kind : ElementKind)
  /-- The document has no such page. -/
  | unknownPage (number : Nat)
  /-- The document has no such asset. -/
  | assetNotFound (id : Runes)
  /-- The current page has no root to walk. -/
  | noRoot
  deriving DecidableEq, Repr

def pageId (number : Nat) : String := "page-" ++ Number.intText number

def elementId (number : Nat) : String := "el-" ++ Number.intText number

def DesignError.message : DesignError → Runes
  | unsupported kind capability =>
    kind.name ++ " element does not support " ++ capability.name
  | childless kind => kind.name ++ " element cannot contain children"
  | unknownPage number => "Unknown page " ++ pageId number
  | assetNotFound id => "Asset " ++ id ++ " not found"
  | noRoot => "'NoneType' object has no attribute 'walk'"

/-- An element under construction. -/
structure Sketch where
  kind : ElementKind
  tag : Option Runes
  attributes : Table Runes
  properties : Table Runes
  text : Option Runes
  children : List Sketch
  deriving Inhabited

namespace Sketch

/-- A sketch of a kind with nothing in it. -/
def blank (kind : ElementKind) : Sketch :=
  ⟨kind, none, .empty, .empty, none, []⟩

/-- Puts a finished sketch into another. -/
def append (s child : Sketch) : Except DesignError Sketch :=
  if s.kind.can .children then .ok { s with children := s.children ++ [child] }
  else .error (.childless s.kind)

mutual

/-- The facets of a sketch in document order, each with its depth. The numbers mean nothing. -/
def outline (depth : Nat) : Sketch → List Element.Placed
  | ⟨kind, tag, attributes, properties, text, children⟩ =>
    ⟨⟨0, kind, tag, attributes, properties, text, [], none, none⟩, none, depth⟩ ::
      outlineAll (depth + 1) children

/-- The facets of some sketches in document order. -/
def outlineAll (depth : Nat) : List Sketch → List Element.Placed
  | [] => []
  | s :: rest => outline depth s ++ outlineAll depth rest

end

mutual

/-- Turns a sketch into a live element, numbered from `next` on; also gives the next free
number. -/
def place (next : Nat) : Sketch → Element × Nat
  | ⟨kind, tag, attributes, properties, text, children⟩ =>
    let (elements, after) := placeAll (next + 1) children
    (⟨⟨next, kind, tag, attributes, properties, text, [], none, none⟩, elements⟩, after)

/-- Turns sketches into live elements, one after the other. -/
def placeAll (next : Nat) : List Sketch → List Element × Nat
  | [] => ([], next)
  | s :: rest =>
    let (element, afterFirst) := place next s
    let (elements, after) := placeAll afterFirst rest
    (element :: elements, after)

end

/-- The attributes that a node asks for. An identifier that is not empty comes first. -/
def attributesOf (key : Runes) (oid : Option Runes) (attributes : Option Attributes) :
    Table Runes :=
  let tagged := match oid with
    | some s => if s = "" then Table.empty else Table.empty.insert key s
    | none => Table.empty
  match attributes with
  | some given => tagged.insertAll given.table.entries
  | none => tagged

/-- A text, unless it is empty. -/
def nonempty? (s : Option Runes) : Option Runes :=
  s.filter (· ≠ "")

mutual

/-- The sketch of a node and all nodes in it. Identifiers are stored under `key`. -/
def ofNode (key : Runes) : Node → Sketch
  | ⟨tag, oid, text, attributes, styles, children⟩ =>
    ⟨.dom, some tag.text, attributesOf key oid attributes, styles.getD .empty,
      nonempty? text, ofChildren key children⟩

def ofChildren (key : Runes) : Option (List Node) → List Sketch
  | none => []
  | some nodes => ofNodes key nodes

def ofNodes (key : Runes) : List Node → List Sketch
  | [] => []
  | node :: rest => ofNode key node :: ofNodes key rest

end

end Sketch

end DesignBridge
