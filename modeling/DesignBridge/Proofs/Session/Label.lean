import DesignBridge.Proofs.Json.Source
import DesignBridge.Proofs.Relay.Move
import DesignBridge.Proofs.Task.Reading
import DesignBridge.Proofs.Wire.Fields
import DesignBridge.Session.Answer
import DesignBridge.Task.Basic

/-! # Answers carry the id of their task

A body that was sent as text and holds a task has a list of operations, and its id is a text if it
has one. So what is sent for it is read as a task with the id of its submission, joined as text
holds it, and the reply to it carries that id again.
-/

namespace DesignBridge

/-- A body that comes as text and holds a task. -/
structure Task.Arrives (body : Json.Members) : Prop where
  text : ∃ rs, Json.readRunes? rs = .ok (.object body)
  accepted : ∃ task, Task.read (.object body) = .accepted task

namespace Task.Arrives

variable {body : Json.Members}

/-- The operations of a task are a list. -/
theorem operations (h : Task.Arrives body) : ∃ items, body.lookup ↑"ops" = some (.list items) := by
  obtain ⟨task, htask⟩ := h.accepted
  obtain ⟨⟨items, hops, _⟩, _⟩ := Task.read_eq_accepted_iff.mp htask
  exact ⟨items, hops⟩

/-- The id of a task is a text or null, if it has one. -/
theorem id (h : Task.Arrives body) {value : Json} (hvalue : body.lookup ↑"taskId" = some value) :
    value = .null ∨ ∃ s, value = .text s := by
  obtain ⟨task, htask⟩ := h.accepted
  have hid := (Task.read_eq_accepted_iff.mp htask).2
  have hgiven : Task.givenId body = value := by
    rw [Task.givenId, Task.idKey, hvalue]
    rfl
  rw [← hgiven, hid]
  cases task.id with
  | none => exact Or.inl rfl
  | some s => exact Or.inr ⟨s, rfl⟩

theorem members (h : Task.Arrives body) : Json.MembersFromText body := by
  obtain ⟨rs, hread⟩ := h.text
  have hbody := Json.readRunes?_fromText hread
  obtain ⟨w, hw⟩ := hbody.readable
  refine ⟨?_, hbody.keys body rfl⟩
  rw [Json.reread] at hw
  cases hmembers : Json.rereadMembers body [] with
  | error n =>
      rw [hmembers] at hw
      cases hw
  | ok out => exact Json.readable_of_rereadMembers hmembers

end Task.Arrives

/-- A submission whose task is settled: a list of operations under the submission's id. -/
structure Submission.Tasked (s : Submission) : Prop where
  members : Json.MembersFromText s.wire
  operations : ∃ items, s.wire.lookup ↑"ops" = some (.list items)
  id : ∃ id, s.taskId = .text id ∧ s.wire.lookup ↑"taskId" = some (.text id)

namespace Submission

theorem settle_tasked (mint : Nat → String) (minted c : Nat) {s : Submission}
    (h : Task.Arrives s.body) : (s.settle mint minted c).Tasked := by
  unfold settle
  split
  next id hid =>
    obtain ⟨hlookup, htruthy⟩ := Option.filter_eq_some_iff.mp hid
    refine ⟨h.members, h.operations, ?_⟩
    rcases h.id hlookup with rfl | ⟨text, rfl⟩
    · cases htruthy
    · exact ⟨text, rfl, hlookup⟩
  -- An id is made up, and nothing but the id is put into the body.
  next =>
    refine ⟨h.members.put _ ⟨_, rfl⟩, ?_, _, rfl, ?_⟩
    · dsimp only
      rw [Entries.lookup_put, if_neg (by decide)]
      exact h.operations
    · dsimp only
      rw [Entries.lookup_put, if_pos rfl]

theorem lookup_settle_operations (mint : Nat → String) (minted c : Nat) (s : Submission) :
    (s.settle mint minted c).wire.lookup ↑"ops" = s.body.lookup ↑"ops" := by
  unfold settle
  split
  next => rfl
  next =>
    dsimp only
    rw [Entries.lookup_put, if_neg (by decide)]

/-- What is sent for a task is read as its operations and the id of its submission, as far as text
holds them. -/
theorem Tasked.taskOf_payload {s : Submission} (h : s.Tasked) :
    ∃ items operations id, s.wire.lookup ↑"ops" = some (.list items) ∧
      Json.rereadItems items = .ok operations ∧ s.taskId = .text id ∧
      Session.taskOf s.payload = .ok (operations, .text id.joined) := by
  obtain ⟨out, hout⟩ := Json.rereadMembers_isOk h.members.readable []
  have hread : Json.read? s.payload = .ok (.object out) := by
    unfold payload
    rw [Json.read?_write, Json.reread, hout]
    rfl
  obtain ⟨items, hitems⟩ := h.operations
  obtain ⟨id, hid, hlookup⟩ := h.id
  obtain ⟨operations, hoperations, hops⟩ := Json.lookup_rereadMembers hout h.members.keys
    (fun _ _ => Runes.joined_eq_iff (by decide)) hitems
  obtain ⟨text, htext, hlabel⟩ := Json.lookup_rereadMembers hout h.members.keys
    (fun _ _ => Runes.joined_eq_iff (by decide)) hlookup
  obtain rfl := Except.ok.inj htext
  rw [Json.reread] at hoperations
  cases hlist : Json.rereadItems items with
  | error n =>
      rw [hlist] at hoperations
      cases hoperations
  | ok list =>
      rw [hlist] at hoperations
      obtain rfl := Except.ok.inj hoperations
      refine ⟨items, list, id, hitems, hlist, hid, ?_⟩
      simp [Session.taskOf, hread, Json.get?, hops, hlabel]

end Submission

namespace Session

/-- A task is answered with the results of its operations and its id. -/
theorem answer_of_task {frame : String} {operations : List Json} {id : Runes}
    (h : taskOf frame = .ok (operations, .text id)) (i : Interpreter) (d : Document) :
    (answer i d frame).2 = .accepted
      (Reply.toWire ⟨true, some (i.run d (operations.map .raw)).2, some id, none, none⟩) := by
  unfold answer
  rw [h]
  rfl

end Session

namespace Reply

theorem toWire_eq (reply : Reply) : reply.toWire = .object (View.wireFields reply.fields) := by
  unfold toWire
  rw [View.wire]

theorem keys_wireFields (reply : Reply) : (Entries.keys (View.wireFields reply.fields)).Nodup := by
  apply (View.keys_wireFields reply.fields).nodup
  simp only [fields, List.map_cons, List.map_nil]
  decide

theorem lookup_wireFields_id {reply : Reply} {id : Runes} (h : reply.taskId = some id) :
    (View.wireFields reply.fields).lookup ↑"taskId" = some (.text id) := by
  obtain ⟨ok, results, taskId, error, note⟩ := reply
  obtain rfl : taskId = some id := h
  cases results with
  | none => rfl
  | some results => rfl

theorem lookup_wireFields_ok (reply : Reply) :
    (View.wireFields reply.fields).lookup ↑"ok" = some (.bool reply.ok) := rfl

/-- A reply that can be read has the fields that were put into it. -/
theorem lookup_of_reply? {reply : Reply} {name : String} (hname : Runes.isBasic name = true)
    {value : Json} (h : (View.wireFields reply.fields).lookup (name : Runes) = some value)
    {members : Json.Members} (hread : Frame.reply? reply.toWire.write = some members) :
    ∃ out, Json.reread value = .ok out ∧ members.lookup (name : Runes) = some out := by
  unfold Frame.reply? at hread
  rw [Json.read?_write, toWire_eq, Json.reread] at hread
  cases hout : Json.rereadMembers (View.wireFields reply.fields) [] with
  | error n =>
      rw [hout] at hread
      cases hread
  | ok out =>
      rw [hout] at hread
      obtain rfl := Option.some.inj hread
      exact Json.lookup_rereadMembers hout reply.keys_wireFields
        (fun _ _ => Runes.joined_eq_iff hname) h

/-- So it carries the id that was put into it, joined. -/
theorem id_of_reply? {reply : Reply} {id : Runes} (h : reply.taskId = some id)
    {members : Json.Members} (hread : Frame.reply? reply.toWire.write = some members) :
    members.lookup ↑"taskId" = some (.text id.joined) := by
  obtain ⟨value, hvalue, hlookup⟩ := lookup_of_reply? (by decide) (lookup_wireFields_id h) hread
  obtain rfl := Except.ok.inj hvalue
  exact hlookup

/-- A reply says how the task went, so it is no heartbeat. -/
theorem isHeartbeat_write (reply : Reply) : Frame.isHeartbeat reply.toWire.write = false := by
  unfold Frame.isHeartbeat
  cases hread : Frame.reply? reply.toWire.write with
  | none => rfl
  | some members =>
      obtain ⟨value, _, hok⟩ := lookup_of_reply? (by decide) reply.lookup_wireFields_ok hread
      simp [Frame.isTaskEnvelope, hok]

end Reply

end DesignBridge
