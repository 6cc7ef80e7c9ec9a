import DesignBridge.Design.Label
import DesignBridge.Wire.Record

/-! # Nodes

A node declares an element to build and the elements inside it. What is null or absent in a node
is kept apart from what is empty, so that a node and its wire form say the same.
-/

namespace DesignBridge

/-- The declaration of an element and its children. -/
structure Node where
  tag : Label
  oid : Option Runes
  text : Option Runes
  attributes : Option Attributes
  styles : Option (Table Runes)
  children : Option (List Node)

namespace Node

open Validation

def kind : String := "BuildNode"

/-- How many nodes can stand inside one another. -/
def maxDepth : Nat := 254

mutual

/-- Reads a node that stands inside a number of others. -/
def readWithin (outer : Nat) (value : Json) : Checked Node :=
  if maxDepth ≤ outer then .fail .tooDeep
  else match value with
    | .object members =>
      mk <$> requiredField members "tag" Label.read
        <*> optionalField members "oid" readText
        <*> optionalField members "text" readText
        <*> optionalField members "attrs" Attributes.read
        <*> optionalField members "styles" readTextTable
        <*> readChildren (outer + 1) members
    | _ => .fail (.recordExpected kind)

def readChildren (outer : Nat) : Json.Members → Checked (Option (List Node))
  | [] => .accepted none
  | (name, value) :: rest =>
    if name = "children" then (readList? outer value).under (.key name)
    else readChildren outer rest

/-- Reads a list of nodes, or null. -/
def readList? (outer : Nat) : Json → Checked (Option (List Node))
  | .null => .accepted none
  | .list items => some <$> readItems outer 0 items
  | _ => .fail .listExpected

/-- Reads the nodes of a list, the first of which has the given index. -/
def readItems (outer : Nat) : Nat → List Json → Checked (List Node)
  | _, [] => .accepted []
  | n, x :: xs =>
    List.cons <$> (readWithin outer x).under (.index n) <*> readItems outer (n + 1) xs

end

def read (value : Json) : Checked Node :=
  readWithin 0 value

mutual

def fields : Node → List (FieldKey × View)
  | ⟨tag, oid, text, attributes, styles, children⟩ =>
    [("tag", .value (.text tag.text)), ("oid", View.text? oid), ("text", View.text? text),
      ("attrs", View.ofOption (fun a => .texts a.table) attributes),
      ("styles", View.ofOption .texts styles), ("children", viewChildren children)]

def viewChildren : Option (List Node) → View
  | none => .value .null
  | some nodes => .list (viewItems nodes)

def viewItems : List Node → List View
  | [] => []
  | node :: rest => .nested (fields node) :: viewItems rest

end

def view (node : Node) : View :=
  .nested node.fields

end Node

end DesignBridge
