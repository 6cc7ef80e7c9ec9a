import DesignBridge.Document.Basic
import DesignBridge.Text.Blank
import DesignBridge.Text.Case

/-! # Finding elements

An identifier finds the elements that carry it, in document order. A selector is a path of children
that goes on from there, written with a separator between its segments. Each segment names a tag, in
any letter case, or is empty and stands for every tag; it leads to one layer of children, and what
comes first in the last layer is found.
-/

namespace DesignBridge

namespace Selector

/-- The character between two segments. -/
def separator : Char := '>'

/-- The segments of a selector, without the blanks around them. -/
def segments (selector : Runes) : List Runes :=
  (selector.split separator).map Runes.trim

/-- Whether a tag fits a segment. An element without a tag fits the empty segment only. -/
def fits (segment : Runes) (tag : Option Runes) : Bool :=
  let wanted := segment.lower
  wanted.isEmpty || tag.any fun t => !t.isEmpty && t.lower == wanted

end Selector

namespace Document

/-- Whether an element carries an identifier under an attribute. -/
def carries (key oid : Runes) (e : Element) : Bool :=
  e.can .attributes && e.facet.attributes.get? key == some oid

/-- The elements of the current page that carry an identifier. -/
def findAll (d : Document) (key oid : Runes) : Except DesignError (List Element) :=
  d.currentElements.map fun elements => elements.filter (carries key oid)

/-- The children of some elements that fit a segment. -/
def narrow (segment : Runes) (layer : List Element) : List Element :=
  (layer.filter (·.can .children)).flatMap fun e =>
    e.children.filter fun child => child.kind = .dom && Selector.fits segment child.facet.tag

/-- Goes along segments, layer by layer. -/
def follow (layer : List Element) (segments : List Runes) : List Element :=
  segments.foldl (fun layer segment => narrow segment layer) layer

/-- Whether a selector says nothing. -/
def isBlankSelector : Option Runes → Bool
  | none => true
  | some s => s.trim.isEmpty

/-- The first element that an identifier and a selector lead to. -/
def resolve (d : Document) (key oid : Runes) (selector : Option Runes) :
    Except DesignError (Option Element) :=
  (d.findAll key oid).map fun tagged =>
    match selector with
    | some path =>
      if isBlankSelector selector then tagged.head?
      else (follow tagged (Selector.segments path)).head?
    | none => tagged.head?

end Document

end DesignBridge
