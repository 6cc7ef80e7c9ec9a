import DesignBridge.Proofs.Design.WireForm
import DesignBridge.Proofs.Document.Instruction
import DesignBridge.Proofs.Task.Reading

/-! # Tasks on the wire

A task has a wire form unless too many nodes stand inside one another in it. The wire form is read
as the task with its names shown as strings, and its operations run like those of that task, raw as
they are. Names without halves of surrogate pairs are shown as they are, so then it is the task
itself.
-/

namespace DesignBridge.Task

open Validation

/-- A task with the names of attributes, styles and properties shown as strings. -/
def shown (task : Task) : Task :=
  { task with operations := task.operations.map Operation.shown }

/-- Whether no such name has halves of surrogate pairs. -/
def hasWholeNames (task : Task) : Bool :=
  task.operations.all Operation.hasWholeNames

theorem shown_eq_self_iff (task : Task) : task.shown = task ↔ task.hasWholeNames = true := by
  obtain ⟨operations, id⟩ := task
  simp only [shown, hasWholeNames, mk.injEq, and_true]
  induction operations with
  | nil => simp
  | cons operation rest ih =>
      rw [List.map_cons, List.cons.injEq, List.all_cons, Bool.and_eq_true,
        operation.shown_eq_self_iff, ih]

/-- The operations of a task as they are seen by whoever writes them. -/
def views (task : Task) : List View :=
  task.operations.map fun operation => .record operation.fields

theorem fields_eq (task : Task) :
    task.fields = [(.same "ops", .list task.views), (idKey, View.text? task.id)] := rfl

/-- The operations of a task as they are written. -/
def wireOperations (task : Task) : List Json :=
  task.operations.map fun operation => (View.record operation.fields).wire

theorem lookup_toWire_operations (task : Task) :
    task.toWire.lookup ↑"ops" = some (.list task.wireOperations) := by
  have hitems : View.wireItems task.views = task.wireOperations := by
    rw [View.wireItems_eq_map, views, List.map_map]
    rfl
  rw [← hitems]
  rfl

/-- No operation is deeper than its task. -/
theorem depth_le {task : Task} {operation : Operation} (h : operation ∈ task.operations) :
    (View.record operation.fields).depth ≤ task.depth := by
  have hitems : ∀ operations : List Operation, operation ∈ operations →
      (View.record operation.fields).depth ≤
        View.depthItems (operations.map fun operation => .record operation.fields) := by
    intro operations hmem
    induction operations with
    | nil => cases hmem
    | cons first rest ih =>
        rw [List.map_cons, View.depthItems]
        rcases List.mem_cons.mp hmem with rfl | hmem
        · exact Nat.le_max_left ..
        · exact Nat.le_trans (ih hmem) (Nat.le_max_right ..)
  refine Nat.le_trans (hitems task.operations h) ?_
  rw [depth, fields, View.depthFields, View.depth]
  exact Nat.le_max_left ..

theorem map_read_wireOperations {task : Task} (h : task.depth < View.depthLimit) :
    task.wireOperations.map Operation.read = task.shown.operations.map .accepted := by
  rw [wireOperations, shown, List.map_map, List.map_map]
  exact List.map_congr_left fun operation hmem =>
    Operation.read_wire (Nat.lt_of_le_of_lt (depth_le hmem) h)

theorem givenId_toWire (task : Task) : givenId task.toWire = Json.ofText? task.id := by
  obtain ⟨operations, id⟩ := task
  cases id <;> rfl

theorem read_toWire {task : Task} (h : task.depth < View.depthLimit) :
    read (.object task.toWire) = .accepted task.shown :=
  read_eq_accepted_iff.mpr ⟨⟨task.wireOperations, task.lookup_toWire_operations,
    map_read_wireOperations h⟩, task.givenId_toWire⟩

theorem toWire_shown (task : Task) : task.shown.toWire = task.toWire := by
  have hitems : View.wireItems task.shown.views = View.wireItems task.views := by
    rw [View.wireItems_eq_map, View.wireItems_eq_map, views, views, shown, List.map_map,
      List.map_map, List.map_map]
    exact List.map_congr_left fun operation _ => operation.wire_shown
  have hlist : (View.list task.shown.views).wire = (View.list task.views).wire := by
    rw [View.wire, View.wire, hitems]
  rw [toWire, toWire, fields_eq, fields_eq, View.wireFields, View.wireFields, hlist]
  rfl

theorem depth_shown (task : Task) : task.shown.depth = task.depth := by
  have hitems : View.depthItems task.shown.views = View.depthItems task.views := by
    rw [views, views, shown, List.map_map]
    induction task.operations with
    | nil => rfl
    | cons operation rest ih =>
        simp only [List.map_cons, View.depthItems, Function.comp_apply, operation.depth_shown, ih]
  have hlist : (View.list task.shown.views).depth = (View.list task.views).depth := by
    rw [View.depth, View.depth, hitems]
  rw [depth, depth, fields_eq, fields_eq, View.depthFields, View.depthFields, hlist]
  rfl

/-- A task has a wire form unless nodes stand too deep in it. The wire form is read as the task with
its names shown as strings, which has that wire form too, and its raw operations do to every
document what the operations of that task do, with the same results. It is the task itself just if
no name has halves of surrogate pairs. -/
theorem wire_round_trip (task : Task) :
    (task.toWire?.isSome = true ↔ task.depth < View.depthLimit) ∧
    (∀ wire ∈ task.toWire?, read (.object wire) = .accepted task.shown ∧
      task.shown.toWire? = some wire ∧
      ∃ items, wire.lookup ↑"ops" = some (.list items) ∧
        ∀ (i : Interpreter) (d : Document),
          i.run d (items.map .raw) = i.run d (task.shown.operations.map .ready)) ∧
    (task.shown = task ↔ task.hasWholeNames = true) := by
  refine ⟨?_, fun wire hwire => ?_, task.shown_eq_self_iff⟩
  · unfold toWire?
    split
    next h => exact iff_of_true rfl h
    next h => exact iff_of_false nofun h
  · unfold toWire? at hwire
    split at hwire
    next h =>
      obtain rfl := Option.some.inj hwire
      refine ⟨read_toWire h, ?_, task.wireOperations, task.lookup_toWire_operations,
        fun i d => i.run_raw d (map_read_wireOperations h)⟩
      rw [toWire?, if_pos (task.depth_shown ▸ h), toWire_shown]
    next => cases hwire

/-- A tree with an attribute under a name that is half of a surrogate pair. -/
def halved : Task :=
  ⟨[.buildTree .selected ⟨⟨"div", by decide, by decide⟩, none, none,
    some ⟨.ofList [(⟨[.half 0]⟩, "")], by decide⟩, none, none⟩], some "halved"⟩

/-- It is written, and what is written is read, but as a tree with another attribute. -/
theorem wire_round_trip_halved :
    ∃ wire, halved.toWire? = some wire ∧ read (.object wire) = .accepted halved.shown ∧
      halved.shown ≠ halved := by
  obtain ⟨hwritten, hread, hwhole⟩ := wire_round_trip halved
  obtain ⟨wire, hwire⟩ := Option.isSome_iff_exists.mp (hwritten.mpr (by decide))
  exact ⟨wire, hwire, (hread wire hwire).1, fun h => absurd (hwhole.mp h) (by decide)⟩

/-- So not every task is read back from its wire form. -/
theorem halved_name_not_read_back :
    ¬ ∀ task : Task, ∃ wire, task.toWire? = some wire ∧ read (.object wire) = .accepted task := by
  intro hall
  obtain ⟨wire, hwire, hread⟩ := hall halved
  have hwritten : halved.toWire? = some halved.toWire := if_pos (by decide)
  obtain rfl := Option.some.inj (hwritten.symm.trans hwire)
  have hshown : halved.shown = halved :=
    Checked.accepted.inj ((read_toWire (by decide)).symm.trans hread)
  exact absurd ((shown_eq_self_iff halved).mp hshown) (by decide)

end DesignBridge.Task
