import DesignBridge.Design.Operation

/-! # Tasks

A task is an ordered batch of operations, with an id by which its report is told from others.
-/

namespace DesignBridge

/-- A batch of operations. -/
structure Task where
  operations : List Operation
  id : Option Runes

namespace Task

open Validation

def kind : String := "Task"

/-- The field that holds the id of a task. -/
def idKey : FieldKey := ⟨"taskId", "task_id"⟩

def readFields (members : Json.Members) : Checked Task :=
  mk <$> requiredField members "ops" (readList Operation.read)
    <*> optionalField members idKey readText

def read : Json → Checked Task :=
  readRecord kind readFields

def fields (task : Task) : List (FieldKey × View) :=
  [("ops", .list (task.operations.map fun operation => .record operation.fields)),
    (idKey, View.text? task.id)]

def toRecord (task : Task) : Record :=
  ⟨kind, true, task.fields⟩

/-- How many nodes stand inside one another, in the tree where these are most. -/
def depth (task : Task) : Nat :=
  View.depthFields task.fields

/-- The members of the wire form of a task. -/
def toWire (task : Task) : Json.Members :=
  View.wireFields task.fields

/-- The wire form of a task, where there is one. -/
def toWire? (task : Task) : Option Json.Members :=
  if task.depth < View.depthLimit then some task.toWire else none

end Task

end DesignBridge
