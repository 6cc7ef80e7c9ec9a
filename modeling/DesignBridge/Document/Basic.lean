import DesignBridge.Document.Sketch

/-! # Documents

A document has pages, a page that is current, perhaps a selected element, named styles and
uploaded assets. Numbers of pages and elements are given out once. A root that is replaced leaves
its page but stays as a detached tree, because it may still be selected.
-/

namespace DesignBridge

/-- A page. -/
structure Page where
  number : Nat
  name : Runes
  slug : Option Runes
  root : Option Element

/-- A named style: its properties and the name of the style it builds on. -/
structure Style where
  properties : Table Runes
  parent : Option Runes
  deriving DecidableEq

/-- A style that says nothing. -/
def Style.plain : Style := ⟨.empty, none⟩

/-- An uploaded asset. -/
structure Asset where
  name : Runes
  url : Option Runes
  deriving DecidableEq

/-- A design document. -/
structure Document where
  pages : List Page
  current : Nat
  selected : Option Nat
  styles : Table Style
  assets : Table Asset
  detached : List Element
  nextPage : Nat
  nextElement : Nat

namespace Document

/-- The root that every new page has. -/
def newRoot (number : Nat) : Element :=
  .leaf (.plain number .body (some "body"))

/-- A document with an empty home page. -/
def fresh : Document where
  pages := [⟨1, "Home", some "", some (newRoot 1)⟩]
  current := 1
  selected := none
  styles := .empty
  assets := .empty
  detached := []
  nextPage := 2
  nextElement := 2

/-! ## Looking things up -/

/-- The roots of all pages. -/
def roots (d : Document) : List Element :=
  d.pages.filterMap (·.root)

/-- All elements of the pages. -/
def elements (d : Document) : List Element :=
  Element.preorderAll d.roots

/-- The element with a number, on a page or detached. -/
def anyElement? (d : Document) (id : Nat) : Option Element :=
  (Element.preorderAll (d.roots ++ d.detached)).find? (·.id == id)

def page? (d : Document) (number : Nat) : Option Page :=
  d.pages.find? (·.number == number)

/-- The root of the current page. -/
def root? (d : Document) : Option Element :=
  (d.page? d.current).bind (·.root)

def selection? (d : Document) : Option Element :=
  d.selected.bind d.anyElement?

/-- The elements of the current page in document order. -/
def currentElements (d : Document) : Except DesignError (List Element) :=
  match d.root? with
  | some root => .ok root.preorder
  | none => .error .noRoot

/-! ## Changing things -/

/-- Applies a function to the element with a number. -/
def modifyElement (d : Document) (id : Nat) (f : Element → Element) : Document :=
  { d with
    pages := d.pages.map fun page => { page with root := page.root.map (Element.modify id f) }
    detached := Element.modifyAll id f d.detached }

/-- Applies a function to the facet of the element with a number. -/
def modifyFacet (d : Document) (id : Nat) (f : Facet → Facet) : Document :=
  d.modifyElement id (Element.mapFacet f)

/-- Applies a function to the page with a number. -/
def modifyPage (d : Document) (number : Nat) (f : Page → Page) : Document :=
  { d with pages := d.pages.map fun page => if page.number = number then f page else page }

/-- Takes the numbers for a new page and its root. -/
def takePage (d : Document) : Document × Page :=
  ({ d with nextPage := d.nextPage + 1, nextElement := d.nextElement + 1 },
    ⟨d.nextPage, "Untitled", none, some (newRoot d.nextElement)⟩)

/-- Adds a new page after the others; also gives its number. -/
def createPage (d : Document) : Document × Nat :=
  let (d, page) := d.takePage
  ({ d with pages := d.pages ++ [page] }, page.number)

/-- Makes a page current and drops the selection. -/
def switchPage (d : Document) (number : Nat) : Except DesignError Document :=
  if d.pages.any (·.number == number) then .ok { d with current := number, selected := none }
  else .error (.unknownPage number)

/-- Replaces the root of the current page by a new element of some kind, or by none; also gives
the number of the new root. -/
def replaceRoot (d : Document) (source : Option (ElementKind × Option Runes)) :
    Document × Option Nat :=
  let old := d.root?.toList
  match source with
  | none =>
    ({ d.modifyPage d.current ({ · with root := none }) with detached := d.detached ++ old }, none)
  | some (kind, tag) =>
    let root := Element.leaf (.plain d.nextElement kind tag)
    ({ d.modifyPage d.current ({ · with root := some root }) with
        detached := d.detached ++ old, nextElement := d.nextElement + 1 }, some d.nextElement)

/-- Selects an element, or nothing. -/
def select (d : Document) (id : Option Nat) : Document :=
  { d with selected := id }

/-- Refuses a call on an element that lacks a capability. -/
def need (e : Element) (capability : Capability) : Except DesignError Unit :=
  if e.can capability then .ok () else .error (.unsupported e.kind capability)

/-- Puts a sketch into an element, after its other children; also gives its number. -/
def attach (d : Document) (parent : Element) (sketch : Sketch) :
    Except DesignError (Document × Nat) := do
  need parent .children
  let (element, next) := sketch.place d.nextElement
  return ({ d.modifyElement parent.id (·.append element) with nextElement := next },
    element.id)

/-- The sketch of an element that is made from its kind alone. -/
def preset (kind : ElementKind) : Sketch :=
  { Sketch.blank kind with tag := if kind = .image then some "img" else none }

/-- Makes sure that a style exists. -/
def createStyle (d : Document) (name : Runes) : Document :=
  if d.styles.contains name then d else { d with styles := d.styles.insert name .plain }

def setProperties (d : Document) (name : Runes) (properties : Table Runes) : Document :=
  { d with styles := d.styles.modify name ({ · with properties }) }

/-- Sets the style that a style builds on. -/
def setParent (d : Document) (name parent : Runes) : Document :=
  { d with styles := d.styles.modify name ({ · with parent := some parent }) }

/-- Adds an asset, or replaces the one with the same id. -/
def addAsset (d : Document) (id : Runes) (asset : Asset) : Document :=
  { d with assets := d.assets.insert id asset }

def asset (d : Document) (id : Runes) : Except DesignError Asset :=
  match d.assets.get? id with
  | some asset => .ok asset
  | none => .error (.assetNotFound id)

/-! ## Calls on one element -/

def attributeOf (e : Element) (name : Runes) : Except DesignError (Option Runes) := do
  need e .attributes
  return e.facet.attributes.get? name

def childrenOf (e : Element) : Except DesignError (List Element) := do
  need e .children
  return e.children

def textOf (e : Element) : Except DesignError (Option Runes) := do
  need e .text
  return e.facet.text

def setText (d : Document) (e : Element) (text : Runes) : Except DesignError Document := do
  need e .text
  return d.modifyFacet e.id ({ · with text := some text })

def setStyles (d : Document) (e : Element) (names : List Runes) :
    Except DesignError Document := do
  need e .styles
  return d.modifyFacet e.id ({ · with styles := names })

/-- Sets the asset that an image shows. -/
def setAsset (d : Document) (e : Element) (id : Runes) : Except DesignError Document := do
  need e .image
  return d.modifyFacet e.id ({ · with asset := some id })

/-- Sets the text that stands for an image. -/
def setAltText (d : Document) (e : Element) (alt : Runes) : Except DesignError Document := do
  need e .image
  return d.modifyFacet e.id ({ · with alt := some alt })

/-- Sets an attribute, whatever the kind of the element. -/
def setAttribute (d : Document) (e : Element) (name value : Runes) : Document :=
  d.modifyFacet e.id fun facet => { facet with attributes := facet.attributes.insert name value }

end Document

/-- An element in messages. -/
def Element.describe (e : Element) : Runes :=
  "MemoryElement(" ++ elementId e.id ++ ", " ++ e.kind.name ++ ", tag=" ++
    (Json.ofText? e.facet.tag).literal ++ ")"

end DesignBridge
