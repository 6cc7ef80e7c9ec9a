import DesignBridge.Proofs.Validation.Accepted
import DesignBridge.Task.Basic

/-! # Reading a task

An object is read as a task just if its operations are a list that is read item by item, and its id
is a text, null or absent.
-/

namespace DesignBridge

namespace Task

open Validation

/-- The value that an object gives for the id of a task; an absent id is null. -/
def givenId (members : Json.Members) : Json :=
  ((members.lookup idKey.wire).or (members.lookup idKey.plain)).getD .null

theorem read_eq_accepted_iff {members : Json.Members} {task : Task} :
    read (.object members) = .accepted task ↔
      (∃ items, members.lookup ↑"ops" = some (.list items) ∧
        items.map Operation.read = task.operations.map .accepted) ∧
      givenId members = Json.ofText? task.id := by
  obtain ⟨operations, id⟩ := task
  have hops : ∀ operations, requiredField members "ops" (readList Operation.read) =
      .accepted operations ↔ ∃ items, members.lookup ↑"ops" = some (.list items) ∧
        items.map Operation.read = operations.map .accepted := by
    intro operations
    rw [requiredField_same_eq_accepted_iff]
    constructor
    · rintro ⟨value, hvalue, hread⟩
      obtain ⟨items, rfl, hitems⟩ := readList_eq_accepted_iff.mp hread
      exact ⟨items, hvalue, hitems⟩
    · rintro ⟨items, hvalue, hitems⟩
      exact ⟨.list items, hvalue, readList_eq_accepted_iff.mpr ⟨items, rfl, hitems⟩⟩
  have hid : ∀ id, optionalField members idKey readText = .accepted id ↔
      givenId members = Json.ofText? id := by
    intro id
    rw [optionalField_eq_accepted_iff, nullable_readText_eq_accepted_iff]
    rfl
  rw [read, readRecord, readFields, Checked.map_seq_eq_accepted_iff]
  simp [hops, hid]

end Task

end DesignBridge
