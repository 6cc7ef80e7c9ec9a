import DesignBridge.Wire.Record

/-! # Reports

What comes back for a task: one result per operation, in a reply that may also say why there are
none.
-/

namespace DesignBridge

/-- The outcome of one operation. -/
structure OperationResult where
  op : Runes
  success : Bool
  result : Json
  error : Option Runes

namespace OperationResult

open Validation

def kind : String := "OperationResult"

def readFields (members : Json.Members) : Checked OperationResult :=
  mk <$> requiredField members "op" readText <*> requiredField members "success" readBoolean
    <*> fieldOr members "result" .null readAny <*> optionalField members "error" readText

def read : Json → Checked OperationResult :=
  readRecord kind readFields

def fields (result : OperationResult) : List (FieldKey × View) :=
  [("op", .value (.text result.op)), ("success", .value (.bool result.success)),
    ("result", .value result.result), ("error", View.text? result.error)]

def toRecord (result : OperationResult) : Record :=
  ⟨kind, false, result.fields⟩

/-- The wire form of a result. -/
def toWire (result : OperationResult) : Json :=
  (View.record result.fields).wire

end OperationResult

/-- The reply to a task. -/
structure Reply where
  ok : Bool
  results : Option (List OperationResult)
  taskId : Option Runes
  error : Option Runes
  note : Option Runes

namespace Reply

open Validation

def kind : String := "TaskResponse"

/-- The field that holds the id of the task. -/
def idKey : FieldKey := ⟨"taskId", "task_id"⟩

def readFields (members : Json.Members) : Checked Reply :=
  mk <$> requiredField members "ok" readBoolean
    <*> optionalField members "result" (readList OperationResult.read)
    <*> optionalField members idKey readText
    <*> optionalField members "error" readText
    <*> optionalField members "note" readText

def read : Json → Checked Reply :=
  readRecord kind readFields

def fields (reply : Reply) : List (FieldKey × View) :=
  [("ok", .value (.bool reply.ok)),
    ("result", View.ofOption (fun rs => .list (rs.map fun r => .record r.fields)) reply.results),
    (idKey, View.text? reply.taskId), ("error", View.text? reply.error),
    ("note", View.text? reply.note)]

def toRecord (reply : Reply) : Record :=
  ⟨kind, false, reply.fields⟩

/-- The wire form of a reply. -/
def toWire (reply : Reply) : Json :=
  (View.record reply.fields).wire

end Reply

end DesignBridge
