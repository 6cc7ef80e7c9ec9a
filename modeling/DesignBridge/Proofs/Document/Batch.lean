import DesignBridge.Proofs.Document.Failure

/-! # Batches

A batch of whatever values gives one result for each, in order, and running two batches one after
the other is running them as one.
-/

namespace DesignBridge.Interpreter

theorem op_resultOf (name : Runes) (outcome : Except Failure Receipt) :
    (resultOf name outcome).op = name := by
  cases outcome with
  | ok receipt => rfl
  | error e => rfl

theorem success_resultOf_iff (name : Runes) (outcome : Except Failure Receipt) :
    (resultOf name outcome).success = true ↔ (resultOf name outcome).error = none := by
  cases outcome with
  | ok receipt => exact ⟨fun _ => rfl, fun _ => rfl⟩
  | error e =>
      constructor
      · intro h
        cases h
      · intro h
        cases h

variable (i : Interpreter) (d : Document)

/-- The results of a batch name its instructions, in order. -/
theorem ops_run (batch : List Instruction) : (i.run d batch).2.map (·.op) = batch.map (·.name) := by
  induction batch generalizing d with
  | nil => rfl
  | cons instruction rest ih =>
      rw [run_cons, List.map_cons, List.map_cons, ih]
      exact congrArg (· :: _) (op_resultOf _ _)

theorem length_run (batch : List Instruction) : (i.run d batch).2.length = batch.length := by
  have hlength := congrArg List.length (ops_run i d batch)
  rwa [List.length_map, List.length_map] at hlength

/-- Two batches one after the other, whatever fails in the first. -/
theorem run_append (xs ys : List Instruction) :
    i.run d (xs ++ ys) =
      ((i.run (i.run d xs).1 ys).1, (i.run d xs).2 ++ (i.run (i.run d xs).1 ys).2) := by
  induction xs generalizing d with
  | nil => rfl
  | cons instruction rest ih =>
      rw [List.cons_append, run_cons, ih, run_cons]
      rfl

/-- A result is that of its instruction, on what the instructions before it left. -/
theorem getElem?_run {batch : List Instruction} {n : Nat} {instruction : Instruction}
    (h : batch[n]? = some instruction) :
    (i.run d batch).2[n]? = some (i.step (i.run d (batch.take n)).1 instruction).2 := by
  obtain ⟨hn, rfl⟩ := List.getElem?_eq_some_iff.mp h
  have hsplit : batch = batch.take n ++ batch[n] :: batch.drop (n + 1) := by
    rw [← List.drop_eq_getElem_cons hn, List.take_append_drop]
  have hfront : (i.run d (batch.take n)).2.length = n := by
    rw [length_run, List.length_take, Nat.min_eq_left (Nat.le_of_lt hn)]
  have hrun := congrArg (fun batch => (i.run d batch).2[n]?) hsplit
  refine hrun.trans ?_
  rw [run_append, run_cons, List.getElem?_append_right (Nat.le_of_eq hfront), hfront, Nat.sub_self]
  rfl

theorem success_run_iff {batch : List Instruction} {result : OperationResult}
    (h : result ∈ (i.run d batch).2) : result.success = true ↔ result.error = none := by
  induction batch generalizing d with
  | nil => cases h
  | cons instruction rest ih =>
      rw [run_cons] at h
      rcases List.mem_cons.mp h with rfl | hrest
      · exact success_resultOf_iff _ _
      · exact ih _ hrest

/-- A batch of whatever values gives one result for each, in order: it goes by the name of the
value, it is a success just if it has no error, and it is what the value does to the document that
the values before it left. A batch may be cut anywhere: the rest runs on what the first part left,
whatever succeeded or failed there. -/
theorem batches_run_in_order :
    (∀ values : List Json,
      (i.run d (values.map .raw)).2.map (·.op) = values.map Operation.nameOf ∧
        (∀ result ∈ (i.run d (values.map .raw)).2,
          result.success = true ↔ result.error = none) ∧
        ∀ (n : Nat) (value : Json), values[n]? = some value →
          (i.run d (values.map .raw)).2[n]? =
            some (i.step (i.run d ((values.take n).map .raw)).1 (.raw value)).2) ∧
      ∀ xs ys : List Instruction,
        i.run d (xs ++ ys) =
          ((i.run (i.run d xs).1 ys).1, (i.run d xs).2 ++ (i.run (i.run d xs).1 ys).2) := by
  refine ⟨fun values => ⟨?_, fun result => success_run_iff i d, fun n value hvalue => ?_⟩,
    run_append i d⟩
  · rw [ops_run, List.map_map]
    rfl
  · rw [List.map_take]
    refine getElem?_run i d ?_
    rw [List.getElem?_map, hvalue]
    rfl

end DesignBridge.Interpreter
