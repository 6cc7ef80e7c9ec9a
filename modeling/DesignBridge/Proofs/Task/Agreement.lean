import DesignBridge.Proofs.Design.Joining
import DesignBridge.Proofs.Server.Executor
import DesignBridge.Proofs.Server.Posting

/-! # Relay and executor agree on tasks

A task is checked twice: as a whole when it is posted, and operation by operation when it is run.
The two checks accept the same operations and read them alike. On the way from the one to the other
a task is written and read again. That may change numbers, but no operation has any; and it joins
the halves of surrogate pairs that stand side by side, but a task is one all the same.
-/

namespace DesignBridge

open Validation

/-- Values whose texts hold operations are read as these after they were sent. -/
theorem Operation.read_rereadItems {items received : List Json} {operations : List Operation}
    (h : Json.rereadItems items = .ok received)
    (hread : (Json.joinedItems items).map read = operations.map .accepted) :
    received.map read = operations.map .accepted := by
  induction items generalizing received operations with
  | nil =>
      obtain rfl := Except.ok.inj h
      exact hread
  | cons item more ih =>
      obtain ⟨first, rest, hfirst, hrest, rfl⟩ := Json.rereadItems_cons h
      cases operations with
      | nil => cases hread
      | cons operation operations =>
          obtain ⟨hitem, hmore⟩ := List.cons.inj hread
          rw [List.map_cons, List.map_cons,
            read_eq_accepted_of_outline (Json.outline_reread item hfirst) hitem, ih hrest hmore]

namespace Task

/-- A value that is read as a task is still read as one when it is joined. -/
theorem steady_read : Steady read := by
  have hkey : FieldKey.IsBasic idKey := ⟨"taskId", "task_id", rfl, by decide, by decide⟩
  refine Steady.record fun members hmembers hread => ?_
  simp only [readFields, Checked.isAccepted_seq, Checked.isAccepted_map, Bool.and_eq_true]
    at hread ⊢
  exact ⟨Operation.steady_read.readList.requiredField (FieldKey.isBasic_same "ops") hmembers
      hread.1,
    steady_readText.optionalField hkey hmembers hread.2⟩

/-- A body that came as text has distinct names. -/
theorem Arrives.tidy {body : Json.Members} (h : Arrives body) : (Json.object body).Tidy := by
  obtain ⟨rs, hrs⟩ := h.text
  exact Json.Reader.builds_tidy.readRunes? hrs

/-- Whether an executor gets from a frame what runs like the operations of a task, so that no
operation is said to be unknown or invalid. -/
def RunsFrom (task : Task) (frame : String) : Prop :=
  ∃ received id, Session.taskOf frame = .ok (received, .text id) ∧
    ∀ (i : Interpreter) (d : Document),
      i.run d (received.map .raw) = i.run d (task.operations.map .ready) ∧
      ∀ e : Failure, e.isMalformed = true →
        ∀ result ∈ (i.run d (received.map .raw)).2, result.error ≠ some e.message

/-- What is sent for a body that came as text runs like the task that the body holds once it is
joined. -/
theorem Arrives.runsFrom {body : Json.Members} (h : Arrives body) {task : Task}
    (htask : read (Json.object body).joined = .accepted task) (mint : Nat → String)
    (minted c : Nat) :
    task.RunsFrom ((Submission.fresh body).settle mint minted c).payload := by
  have htasked : ((Submission.fresh body).settle mint minted c).Tasked :=
    Submission.settle_tasked mint minted c h
  obtain ⟨items, received, id, hitems, hreceived, _, htaskOf⟩ := htasked.taskOf_payload
  have hposted : body.lookup ↑"ops" = some (.list items) :=
    (Submission.lookup_settle_operations mint minted c (.fresh body)).symm.trans hitems
  rw [Json.joined] at htask
  obtain ⟨⟨joined, hjoined, hread⟩, _⟩ := read_eq_accepted_iff.mp htask
  obtain rfl : joined = Json.joinedItems items := by
    rw [Json.lookup_joinedMembers (by decide) h.tidy.keys, hposted] at hjoined
    simpa [Json.joined] using hjoined.symm
  refine ⟨received, id.joined, htaskOf, fun i d => ?_⟩
  have hrun := i.run_raw d (Operation.read_rereadItems hreceived hread)
  refine ⟨hrun, fun e he => ?_⟩
  rw [hrun]
  exact Interpreter.error_run_ready i d task.operations he

/-- An object holds a task just if its operations are a list of values that an interpreter takes
for operations, one by one, and its id is a text, null or absent. -/
theorem read_isAccepted_iff {members : Json.Members} :
    (∃ task, read (.object members) = .accepted task) ↔
      (∃ items, members.lookup ↑"ops" = some (.list items) ∧
        ∀ item ∈ items, ∃ operation, (Instruction.raw item).operation = .ok operation) ∧
      ∀ id, (members.lookup ↑"taskId").or (members.lookup ↑"task_id") = some id →
        id = .null ∨ ∃ s, id = .text s := by
  simp only [Instruction.operation_raw_iff]
  constructor
  · rintro ⟨task, htask⟩
    obtain ⟨⟨items, hitems, hread⟩, hid⟩ := read_eq_accepted_iff.mp htask
    refine ⟨⟨items, hitems, fun item hitem => ?_⟩, fun id hgiven => ?_⟩
    · have hmem : Operation.read item ∈ task.operations.map .accepted :=
        hread ▸ List.mem_map_of_mem hitem
      obtain ⟨operation, _, hoperation⟩ := List.mem_map.mp hmem
      exact ⟨operation, hoperation.symm⟩
    · have hgiven' : givenId members = id := by
        rw [givenId, idKey, hgiven]
        rfl
      rw [← hgiven', hid]
      cases task.id with
      | none => exact .inl rfl
      | some s => exact .inr ⟨s, rfl⟩
  · rintro ⟨⟨items, hitems, hread⟩, hid⟩
    obtain ⟨operations, hoperations⟩ := exists_map_accepted hread
    have hgiven : ∃ id, givenId members = Json.ofText? id := by
      unfold givenId
      cases hfound : (members.lookup idKey.wire).or (members.lookup idKey.plain) with
      | none => exact ⟨none, rfl⟩
      | some value =>
          rcases hid value hfound with rfl | ⟨s, rfl⟩
          · exact ⟨none, rfl⟩
          · exact ⟨some s, rfl⟩
    obtain ⟨id, hgiven⟩ := hgiven
    exact ⟨⟨operations, id⟩, read_eq_accepted_iff.mpr ⟨⟨items, hitems, hoperations⟩, hgiven⟩⟩

/-- The check of a whole task and the check of its operations one by one agree: the same values are
tasks by both, every operation is the one that an interpreter takes its value for, and what is sent
for a task that was posted runs like a task, so that none of its operations is said to be unknown or
invalid. This is the task that was posted, with its texts joined; without halves, the same. -/
theorem validations_agree (body : Json) :
    ((∃ task, read body = .accepted task) ↔ ∃ members, body = .object members ∧
      (∃ items, members.lookup ↑"ops" = some (.list items) ∧
        ∀ item ∈ items, ∃ operation, (Instruction.raw item).operation = .ok operation) ∧
      ∀ id, (members.lookup ↑"taskId").or (members.lookup ↑"task_id") = some id →
        id = .null ∨ ∃ s, id = .text s) ∧
    (∀ task, read body = .accepted task → ∃ members items, body = .object members ∧
      members.lookup ↑"ops" = some (.list items) ∧
      items.map (fun item => (Instruction.raw item).operation) = task.operations.map .ok) ∧
    ∀ (b : Bridge) (request : Request) (members : Json.Members),
      Body.read request = .ok (.json body) → (b.react .task request).2 = .submit members →
      body = .object members ∧ ∃ task sent, read body = .accepted task ∧
        read body.joined = .accepted sent ∧ (body.isWhole = true → sent = task) ∧
        ∀ mint minted c, sent.RunsFrom
          ((Submission.fresh members).settle mint minted c).payload := by
  refine ⟨?_, fun task htask => ?_, fun b request members hbody hsubmit => ?_⟩
  · cases body with
    | object members => simpa using read_isAccepted_iff
    | null | bool | number | text | list =>
        constructor
        · rintro ⟨task, htask⟩
          cases htask
        · rintro ⟨members, heq, _⟩
          cases heq
  · cases body with
    | object members =>
        obtain ⟨⟨items, hitems, hread⟩, _⟩ := read_eq_accepted_iff.mp htask
        exact ⟨members, items, rfl, hitems, Instruction.map_operation_raw hread⟩
    | null | bool | number | text | list => cases htask
  · obtain ⟨_, hread, harrives⟩ := Bridge.arrives_of_react hsubmit
    obtain rfl := Body.json.inj (Except.ok.inj (hbody.symm.trans hread))
    obtain ⟨task, htask⟩ := harrives.accepted
    obtain ⟨sent, hsent⟩ := Checked.isAccepted_iff.mp
      (steady_read _ harrives.tidy (Checked.isAccepted_iff.mpr ⟨task, htask⟩))
    refine ⟨rfl, task, sent, htask, hsent, fun hwhole => ?_, harrives.runsFrom hsent⟩
    rw [Json.joined_of_isWhole harrives.tidy hwhole, htask] at hsent
    exact (Checked.accepted.inj hsent).symm

/-- A batch of one operation, posted under no id. -/
theorem validations_agree_posted :
    let members : Json.Members := [("ops", .list [.object [("op", .text "TEST_CONNECTION")]])]
    let request : Request := ⟨"POST", "/task", "", [("content-type", "application/json")],
      Json.bytes (.object members)⟩
    Body.read request = .ok (.json (.object members)) ∧
      (Bridge.justStarted.react .task request).2 = .submit members ∧
      ∃ task, read (.object members) = .accepted task ∧ task.RunsFrom
        ((Submission.fresh members).settle (fun _ => "made") 0 0).payload := by
  intro members request
  have hread : Json.readBody? request.body = .ok (.object members) :=
    (Json.lasts_iff.mpr rfl).readBody?_bytes (by decide +kernel)
  have hbody : Body.read request = .ok (.json (.object members)) :=
    Body.read_of_readBody? (by decide +kernel) hread
  have hsubmit : (Bridge.justStarted.react .task request).2 = .submit members := by
    unfold Bridge.react
    dsimp only
    rw [hbody]
    rfl
  obtain ⟨_, task, sent, htask, _, hsame, hruns⟩ :=
    (validations_agree (.object members)).2.2 _ request members hbody hsubmit
  obtain rfl := hsame (by decide)
  exact ⟨hbody, hsubmit, sent, htask, hruns _ 0 0⟩

end Task

end DesignBridge
