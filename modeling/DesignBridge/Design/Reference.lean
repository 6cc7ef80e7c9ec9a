import DesignBridge.Design.Label
import DesignBridge.Wire.Record

/-! # References

A reference names an element by its identifier, and may go on from there along a path of children.
-/

namespace DesignBridge

/-- The address of an element: an identifier and perhaps a path of children. -/
structure Reference where
  oid : Label
  selector : Option Runes
  deriving DecidableEq

namespace Reference

open Validation

def kind : String := "ElementRef"

def readFields (members : Json.Members) : Checked Reference :=
  mk <$> requiredField members "oid" Label.read <*> optionalField members "selector" readText

/-- Reads a reference in any of its forms: an object, an identifier alone, or a list of an
identifier and perhaps a path. -/
def read : Json → Checked Reference
  | .text s => readFields [("oid", .text s)]
  | .list [oid] => readFields [("oid", oid), ("selector", .null)]
  | .list [oid, selector] => readFields [("oid", oid), ("selector", selector)]
  | .list _ => .fail (.refused "element reference must be [oid] or [oid, selector]")
  | .object members => readFields members
  | _ => .fail (.recordExpected kind)

def fields (reference : Reference) : List (FieldKey × View) :=
  [("oid", .value (.text reference.oid.text)), ("selector", View.text? reference.selector)]

end Reference

end DesignBridge
