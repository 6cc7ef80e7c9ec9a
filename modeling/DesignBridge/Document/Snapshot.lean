import DesignBridge.Document.Basic
import DesignBridge.Json.Basic

/-! # Snapshots

A document, or a sketch, as a value: everything that it shows, with its elements one after the
other in document order.
-/

namespace DesignBridge

/-- Named texts as a list of pairs, which keeps their order. -/
def Table.pairs (table : Table Runes) : Json :=
  .list (table.entries.map fun (name, s) => .list [.text name, .text s])

/-- The number of an element, or null. -/
def elementRef : Option Nat → Json
  | some n => .text (elementId n)
  | none => .null

/-- What a sketched element shows. -/
def Element.Placed.sketchRow (p : Element.Placed) : Json :=
  .object [("depth", .int p.depth), ("kind", .text p.facet.kind.name),
    ("tag", Json.ofText? p.facet.tag), ("attributes", p.facet.attributes.pairs),
    ("styles", p.facet.properties.pairs), ("text", Json.ofText? p.facet.text),
    ("capabilities", .list ((Capability.all.filter p.facet.kind.can).map (.text ·.name)))]

def Sketch.snapshot (s : Sketch) : Json :=
  .list ((s.outline 0).map Element.Placed.sketchRow)

/-- What an element of a document shows. -/
def Element.Placed.row (p : Element.Placed) : Json :=
  let f := p.facet
  .object [("id", elementRef (some f.id)), ("parent", elementRef p.parent),
    ("kind", .text f.kind.name), ("tag", Json.ofText? f.tag), ("attributes", f.attributes.pairs),
    ("style_properties", f.properties.pairs), ("text", Json.ofText? f.text),
    ("styles", .list (f.styles.map .text)), ("asset", Json.ofText? f.asset),
    ("alt", Json.ofText? f.alt)]

def Page.snapshot (page : Page) : Json :=
  let elements := match page.root with
    | some root => .list ((root.placed none 0).map Element.Placed.row)
    | none => .null
  .object [("id", .text (pageId page.number)), ("name", .text page.name),
    ("slug", Json.ofText? page.slug), ("elements", elements)]

def Document.snapshot (d : Document) : Json :=
  .object [("pages", .list (d.pages.map Page.snapshot)), ("current", .text (pageId d.current)),
    ("selected", elementRef d.selected),
    ("styles", .list (d.styles.entries.map fun (name, style) =>
      .object [("name", .text name), ("properties", style.properties.pairs),
        ("parent", Json.ofText? style.parent)])),
    ("assets", .list (d.assets.entries.map fun (id, asset) =>
      .list [.text id, .text asset.name, Json.ofText? asset.url]))]

end DesignBridge
