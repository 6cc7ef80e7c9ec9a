import DesignBridge.Proofs.Document.Batch
import DesignBridge.Proofs.Json.Lasting
import DesignBridge.Proofs.Relay.Underway
import DesignBridge.Proofs.Session.Service

/-! # There and back

A body is posted to the relay while its connection works and nothing else goes on there. The
executor behind the connection gets the body under its id, and what it answers is what the
submission returns, however many heartbeats come in before the answer.
-/

namespace DesignBridge

/-! ## What is posted, sent and answered -/

namespace Task

/-- A body that is posted: its operations are a list of whatever values, an id that counts is a
text, and its text holds it. -/
structure Posted (body : Json.Members) (operations : List Json) : Prop where
  operations : body.lookup ↑"ops" = some (.list operations)
  id : ∀ value, taskId? body = some value → ∃ id, value = .text id
  lasts : (Json.object body).Lasts

/-- The id under which a body is sent: its own if that counts, otherwise one that was made up. -/
def sentId (made : String) (body : Json.Members) : Runes :=
  match taskId? body with
  | some (.text id) => id
  | _ => made

/-- A body as it is sent. Only an id that is missing or does not count is replaced. -/
def stamped (made : String) (body : Json.Members) : Json.Members :=
  if (taskId? body).isSome then body else body.put "taskId" (.text made)

/-- The answer to a task that was run. -/
def envelope (id : Runes) (results : List OperationResult) : Json.Members :=
  [("ok", .bool true), ("result", .list (results.map OperationResult.toWire)),
    ("taskId", .text id)]

variable {body : Json.Members} {operations : List Json}

theorem Posted.lookup_id (h : Posted body operations) (made : String) :
    (stamped made body).lookup ↑"taskId" = some (.text (sentId made body)) := by
  unfold stamped sentId
  cases hid : taskId? body with
  | none => rw [Option.isSome_none, if_neg Bool.false_ne_true, Entries.lookup_put, if_pos rfl]
  | some value =>
      obtain ⟨id, rfl⟩ := h.id value hid
      rw [Option.isSome_some, if_pos rfl]
      exact (Option.filter_eq_some_iff.mp hid).1

theorem Posted.lookup_operations (h : Posted body operations) (made : String) :
    (stamped made body).lookup ↑"ops" = some (.list operations) := by
  unfold stamped
  split
  next => exact h.operations
  next => rw [Entries.lookup_put, if_neg (by decide), h.operations]

theorem Posted.stamped_lasts (h : Posted body operations) (made : String) :
    (Json.object (stamped made body)).Lasts := by
  unfold stamped
  split
  next => exact h.lasts
  next => exact h.lasts.put (Runes.settled_ofString "taskId") (Json.lasts_text made)

/-- What is sent is read as a task with the operations that were posted. -/
theorem Posted.taskOf (h : Posted body operations) (made : String) :
    Session.taskOf (Json.write (.object (stamped made body))) =
      .ok (operations, .text (sentId made body)) := by
  have hread : Json.read? (Json.write (.object (stamped made body))) =
      .ok (.object (stamped made body)) := h.stamped_lasts made
  simp [Session.taskOf, hread, Json.get?, h.lookup_operations, h.lookup_id]

/-- A submission that finds its connection settles on just that id and that body. -/
theorem Posted.settle (h : Posted body operations) (mint : Nat → String) (minted c : Nat) :
    ((Submission.fresh body).settle mint minted c).taskId =
        .text (sentId (mint (minted + 1)) body) ∧
      ((Submission.fresh body).settle mint minted c).wire =
        stamped (mint (minted + 1)) body := by
  have hbody : (Submission.fresh body).body = body := rfl
  unfold Submission.settle sentId stamped
  rw [hbody]
  cases hid : taskId? body with
  | none => exact ⟨rfl, rfl⟩
  | some value =>
      obtain ⟨id, rfl⟩ := h.id value hid
      exact ⟨rfl, rfl⟩

end Task

theorem Reply.toWire_envelope (id : Runes) (results : List OperationResult) :
    Reply.toWire ⟨true, some results, some id, none, none⟩ =
      .object (Task.envelope id results) := by
  have hresults : View.wireItems (results.map fun result => .record result.fields) =
      results.map OperationResult.toWire := by
    rw [View.wireItems_eq_map, List.map_map]
    rfl
  rw [Reply.toWire_eq, Task.envelope, ← hresults]
  rfl

/-- A task whose id is a text is answered with the results of its operations. -/
theorem Session.answer_eq_envelope {frame : String} {operations : List Json} {id : Runes}
    (h : taskOf frame = .ok (operations, .text id)) (i : Interpreter) (d : Document) :
    answer i d frame = ((i.run d (operations.map .raw)).1,
      .accepted (.object (Task.envelope id (i.run d (operations.map .raw)).2))) := by
  have hdocument : (answer i d frame).1 = (i.run d (operations.map .raw)).1 := by
    rw [answer, h]
  have hreply := answer_of_task h i d
  rw [Reply.toWire_envelope] at hreply
  exact Prod.ext hdocument hreply

theorem Task.isHeartbeat_envelope (id : Runes) (results : List OperationResult) :
    Frame.isHeartbeat (Json.write (.object (envelope id results))) = false := by
  rw [← Reply.toWire_envelope]
  exact Reply.isHeartbeat_write _

/-- The text of a reply that lasts is read as that reply. -/
theorem Frame.reply?_write {members : Json.Members} (h : (Json.object members).Lasts) :
    reply? (Json.write (.object members)) = some members := by
  have hread : Json.read? (Json.write (.object members)) = .ok (.object members) := h
  unfold reply?
  rw [hread]

/-! ## A connection with nothing else on it -/

/-- What may happen while a task is on its way and nothing else goes on: heartbeats come in, time
passes, the submission takes steps, and sending takes a while. -/
inductive ServiceAction.Quiet (c i : Nat) : ServiceAction → Prop
  | beat : Quiet c i .beat
  | wait (seconds : Time) : Quiet c i (.relay (.wait seconds))
  | resume : Quiet c i (.relay (.resume i))
  | setLink (link : Link) (hlink : ∀ reason, link ≠ .broken reason) :
      Quiet c i (.relay (.setLink c link))

/-- What the executor has got of a submission. -/
def Submission.handedOver (i : Nat) (s : Submission) : List (Nat × String) :=
  match s.phase with
  | .awaiting .. => [(i, s.payload)]
  | _ => []

namespace Service

section

variable (mint : Nat → String) (patience : Patience) (c : Nat)

/-- Nothing goes on on a connection: a task can be sent there at once, and the executor has nothing
left to answer. -/
structure Vacant (v : Service) (port : Port) : Prop where
  world : (v.world mint patience).Vacant c port
  answered : v.inbox = []

/-- What comes of a list of actions. -/
def after (v : Service) (actions : List ServiceAction) : Service :=
  actions.foldl (act mint patience c) v

/-- The number of the next submission. -/
def next (v : Service) : Nat :=
  (v.world mint patience).submissions.length

/-- The id that is made up next. -/
def made (v : Service) : String :=
  mint ((v.world mint patience).minted + 1)

/-- The time up to which the reply to a body is waited for that is submitted now. -/
def deadline (v : Service) : Option Time :=
  patience.deadline? (v.world mint patience).now

/-- Submits a body and lets it take its first step. -/
def post (v : Service) (body : Json.Members) : Service :=
  (v.relay mint patience c (.submit body)).relay mint patience c (.resume (v.next mint patience))

/-- What comes of it when a body is posted and then something happens. -/
def posted (v : Service) (body : Json.Members) (quiet : List ServiceAction) : Service :=
  (v.post mint patience c body).after mint patience c quiet

/-- A submission has its task on the way, and the executor has got it if it was sent, and nothing
else. -/
structure Underway (v : Service) (i : Nat) (s : Submission) (deadline : Option Time)
    (waiter : Nat) (port : Port) : Prop where
  world : (v.world mint patience).Underway c i s deadline waiter port
  inbox : v.inbox = s.handedOver i

end

section

variable {mint : Nat → String} {patience : Patience} {c i : Nat} {v : Service} {s : Submission}
  {deadline : Option Time} {waiter : Nat} {port : Port}

/-! ## On the way -/

/-- Only steps of submissions send something. -/
theorem relay_inbox_of_ne_resume {action : RelayAction} (hother : ∀ j, action ≠ .resume j) :
    (v.relay mint patience c action).inbox = v.inbox := by
  obtain ⟨news, hevents, _⟩ := World.act_events mint (v.world mint patience) action c
  rw [relay_inbox hevents]
  cases action with
  | resume j => exact absurd rfl (hother j)
  | _ => exact List.append_nil _

/-- A quiet action, in time: the task stays on its way, and a heartbeat is noted for good. -/
theorem Underway.act (h : v.Underway mint patience c i s deadline waiter port)
    {action : ServiceAction} (hquiet : action.Quiet c i)
    (htime : (v.world mint patience).isPast deadline = false) :
    ∃ phase next, (v.act mint patience c action).Underway mint patience c i { s with phase }
        deadline waiter next ∧
      (v.act mint patience c action).document = v.document ∧
      (s.phase = .awaiting deadline waiter → phase = .awaiting deadline waiter) ∧
      (port.connection.heartbeatSeen = true ∨ action = .beat →
        next.connection.heartbeatSeen = true) := by
  have hworld := relay_world mint patience c v
  have hkept : ∀ action, (∀ j, action ≠ .resume j) →
      (v.relay mint patience c action).inbox = s.handedOver i := fun action hother =>
    (relay_inbox_of_ne_resume hother).trans h.inbox
  cases hquiet with
  | beat =>
      have hbeat := h.world.beat mint Session.isHeartbeat_heartbeat
      rw [← hworld] at hbeat
      exact ⟨s.phase, _, ⟨hbeat, hkept _ (by simp)⟩, rfl, fun hawaits => hawaits, fun _ => rfl⟩
  | wait seconds =>
      obtain ⟨next, hnext, hsame⟩ :=
        h.world.outside mint (.wait seconds) (by simp) (by simp) fun next htouch => by
          cases htouch with
          | untouched => exact ⟨rfl, h.world.works⟩
      rw [← hworld] at hnext
      refine ⟨s.phase, next, ⟨hnext, hkept _ (by simp)⟩, rfl, fun hawaits => hawaits,
        fun hseen => ?_⟩
      rw [hsame]
      exact hseen.resolve_right (by simp)
  | setLink link hlink =>
      obtain ⟨next, hnext, hsame⟩ :=
        h.world.outside mint (.setLink c link) (by simp) (by simp) fun next htouch => by
          cases htouch with
          | untouched => exact ⟨rfl, h.world.works⟩
          | linked => exact ⟨rfl, hlink⟩
      rw [← hworld] at hnext
      refine ⟨s.phase, next, ⟨hnext, hkept _ (by simp)⟩, rfl, fun hawaits => hawaits,
        fun hseen => ?_⟩
      rw [hsame]
      exact hseen.resolve_right (by simp)
  | resume =>
      obtain ⟨phase, news, hnext, hevents, hstep⟩ := h.world.resume mint htime
      rw [← hworld] at hnext
      have hinbox : (v.relay mint patience c (.resume i)).inbox =
          s.handedOver i ++ (RelayAction.resume i).sends c news :=
        (relay_inbox hevents).trans (congrArg (· ++ _) h.inbox)
      obtain ⟨rfl, rfl⟩ | ⟨hsending, rfl, rfl⟩ := hstep
      · exact ⟨s.phase, port, ⟨hnext, hinbox.trans (List.append_nil _)⟩, rfl,
          fun hawaits => hawaits, fun hseen => hseen.resolve_right (by simp)⟩
      · refine ⟨_, port, ⟨hnext, hinbox.trans ?_⟩, rfl, fun _ => rfl,
          fun hseen => hseen.resolve_right (by simp)⟩
        simp [Submission.handedOver, hsending, RelayAction.sends, RelayEvent.payloadOn?,
          Submission.payload]

theorem now_le_act (action : ServiceAction) :
    (v.world mint patience).now ≤ ((v.act mint patience c action).world mint patience).now := by
  have hrelay : ∀ action, (v.world mint patience).now ≤
      ((v.relay mint patience c action).world mint patience).now := by
    intro action
    rw [relay_world]
    exact World.now_le_act mint _ action
  cases action with
  | beat => exact hrelay _
  | relay action =>
      simp only [Service.act]
      split
      next => exact Rat.le_refl
      next => exact hrelay action
  | answer interpreter =>
      simp only [Service.act, Service.answer]
      split
      next => exact Rat.le_refl
      next =>
        split
        next => exact Rat.le_refl
        next =>
          rw [world_snoc]
          exact World.now_le_act mint _ _

theorem now_le_after (actions : List ServiceAction) :
    (v.world mint patience).now ≤
      ((v.after mint patience c actions).world mint patience).now := by
  induction actions generalizing v with
  | nil => exact Rat.le_refl
  | cons action rest ih => exact Rat.le_trans (now_le_act action) ih

/-- Any number of quiet actions, in time. -/
theorem Underway.after (h : v.Underway mint patience c i s deadline waiter port)
    {quiet : List ServiceAction} (hquiet : ∀ action ∈ quiet, action.Quiet c i)
    (htime : ((v.after mint patience c quiet).world mint patience).isPast deadline = false) :
    ∃ phase next, (v.after mint patience c quiet).Underway mint patience c i { s with phase }
        deadline waiter next ∧
      (v.after mint patience c quiet).document = v.document ∧
      (s.phase = .awaiting deadline waiter → phase = .awaiting deadline waiter) ∧
      (port.connection.heartbeatSeen = true ∨ .beat ∈ quiet →
        next.connection.heartbeatSeen = true) := by
  induction quiet generalizing v s port with
  | nil =>
      exact ⟨s.phase, port, h, rfl, fun hawaits => hawaits,
        fun hseen => hseen.resolve_right (by simp)⟩
  | cons action rest ih =>
      have hnow : (v.world mint patience).isPast deadline = false :=
        World.isPast_of_le (now_le_after (action :: rest)) htime
      obtain ⟨phase, next, hnext, hdocument, hawaits, hseen⟩ :=
        h.act (hquiet action List.mem_cons_self) hnow
      obtain ⟨last, after, hafter, hdocument', hawaits', hseen'⟩ :=
        ih hnext (fun other hmem => hquiet other (List.mem_cons_of_mem _ hmem)) htime
      refine ⟨last, after, hafter, hdocument'.trans hdocument, fun hold => hawaits' (hawaits hold),
        fun hany => hseen' ?_⟩
      rcases hany with hbefore | hbeat
      · exact Or.inl (hseen (Or.inl hbefore))
      · rcases List.mem_cons.mp hbeat with rfl | hlater
        · exact Or.inl (hseen (Or.inr rfl))
        · exact Or.inr hlater

end

section

variable {mint : Nat → String} {patience : Patience} {c i : Nat} {v : Service} {s : Submission}
  {deadline : Option Time} {waiter : Nat} {port : Port}

/-! ## Setting out -/

/-- What a submission settles on that finds the connection vacant. -/
def settled (v : Service) (mint : Nat → String) (patience : Patience) (c : Nat)
    (body : Json.Members) : Submission :=
  (Submission.fresh body).settle mint (v.world mint patience).minted c

theorem Vacant.post (h : v.Vacant mint patience c port) (hpatience : patience ≠ .overlong)
    {body : Json.Members} {operations : List Json} (hposted : Task.Posted body operations)
    (htime : (v.world mint patience).isPast (v.deadline mint patience) = false) :
    ∃ phase waiter after, (v.post mint patience c body).Underway mint patience c
        (v.next mint patience) { v.settled mint patience c body with phase }
        (v.deadline mint patience) waiter after ∧
      (port.link = .up → phase = .awaiting (v.deadline mint patience) waiter) := by
  have hplayed : (v.world mint patience).patience = patience :=
    World.play_patience mint patience v.history
  have hmeasured : ((v.settled mint patience c body).wire.lookup ↑"ops").bind unmeasuredType? =
      none := by
    rw [settled, (hposted.settle mint (v.world mint patience).minted c).2,
      hposted.lookup_operations]
    simp [unmeasuredType?, Json.asNumber?]
  have hstarts := h.world.starts mint (World.play_orderly mint patience v.history)
    (t := v.settled mint patience c body) rfl hmeasured
  rw [hplayed] at hstarts
  obtain ⟨phase, waiter, after, news, hunder, hevents, hstage⟩ := hstarts hpatience htime
  refine ⟨phase, waiter, after, ⟨?_, ?_⟩, fun hup => ?_⟩
  · unfold Service.post
    rw [relay_world, relay_world]
    exact hunder
  · rw [← relay_world] at hevents
    have hinbox : (v.post mint patience c body).inbox =
        (v.relay mint patience c (.submit body)).inbox ++
          (RelayAction.resume (v.next mint patience)).sends c news := relay_inbox hevents
    rw [hinbox, relay_inbox_of_ne_resume (by simp), h.answered, List.nil_append]
    obtain ⟨rfl, _, rfl⟩ | ⟨rfl, rfl⟩ := hstage
    · rfl
    · simp [Submission.handedOver, RelayAction.sends, RelayEvent.payloadOn?, Submission.payload]
  · rcases hstage with ⟨_, hstalled, _⟩ | ⟨hawaits, _⟩
    · rw [hup] at hstalled
      cases hstalled
    · exact hawaits

/-- A body that was posted is on its way as long as its time is not over. Once the executor has got
it, the submission waits. -/
theorem Vacant.posted (h : v.Vacant mint patience c port) (hpatience : patience ≠ .overlong)
    {body : Json.Members} {operations : List Json} (hposted : Task.Posted body operations)
    {quiet : List ServiceAction}
    (hquiet : ∀ action ∈ quiet, action.Quiet c (v.next mint patience))
    (htime : ((v.posted mint patience c body quiet).world mint patience).isPast
      (v.deadline mint patience) = false)
    (hgot : port.link = .up ∨ (v.posted mint patience c body quiet).inbox ≠ []) :
    ∃ s waiter next, (v.posted mint patience c body quiet).Underway mint patience c
        (v.next mint patience) s (v.deadline mint patience) waiter next ∧
      s.body = body ∧ s.taskId = .text (Task.sentId (v.made mint patience) body) ∧
      s.payload = Json.write (.object (Task.stamped (v.made mint patience) body)) ∧
      s.phase = .awaiting (v.deadline mint patience) waiter ∧
      (v.posted mint patience c body quiet).document = v.document ∧
      (.beat ∈ quiet → next.connection.heartbeatSeen = true) := by
  have hstart : (v.world mint patience).isPast (v.deadline mint patience) = false := by
    refine World.isPast_of_le ?_ htime
    exact now_le_after (.relay (.submit body) :: .relay (.resume (v.next mint patience)) :: quiet)
  obtain ⟨phase, waiter, after, hpost, hup⟩ := h.post hpatience hposted hstart
  obtain ⟨last, next, hunder, hdocument, hstays, hseen⟩ := hpost.after hquiet htime
  have hawaits : last = .awaiting (v.deadline mint patience) waiter := by
    rcases hunder.world.stage with hsending | hawaits
    · -- What is still being sent has not got to the executor.
      have hnothing := hunder.inbox
      rw [Submission.handedOver, hsending] at hnothing
      rcases hgot with hlink | hthere
      · exact hstays (hup hlink)
      · exact absurd hnothing hthere
    · exact hawaits
  obtain ⟨hid, hwire⟩ := hposted.settle mint (v.world mint patience).minted c
  exact ⟨_, waiter, next, hunder, Submission.settle_body .., hid,
    congrArg (fun members => Json.write (.object members)) hwire, hawaits, hdocument,
    fun hbeat => hseen (Or.inr hbeat)⟩

/-! ## Coming back -/

/-- An action adds to the history what it does to the relay. -/
theorem history_act (v : Service) (mint : Nat → String) (patience : Patience) (c : Nat)
    (action : ServiceAction) : ∃ news, (v.act mint patience c action).history = v.history ++ news ∧
      ∀ step, action = .relay step → step.isDelivery c = false → step ∈ news := by
  cases action with
  | beat => exact ⟨[_], rfl, by simp⟩
  | relay step =>
      simp only [Service.act]
      split
      next hdelivery =>
        refine ⟨[], (List.append_nil _).symm, fun other heq hno => ?_⟩
        obtain rfl := ServiceAction.relay.inj heq
        rw [hdelivery] at hno
        cases hno
      next => exact ⟨[step], rfl, fun other heq _ => by simp [ServiceAction.relay.inj heq]⟩
  | answer interpreter =>
      simp only [Service.act, Service.answer]
      split
      next => exact ⟨[], (List.append_nil _).symm, by simp⟩
      next =>
        split
        next => exact ⟨[], (List.append_nil _).symm, by simp⟩
        next => exact ⟨[_], rfl, by simp⟩

theorem history_after (v : Service) (mint : Nat → String) (patience : Patience) (c : Nat)
    (actions : List ServiceAction) :
    ∃ news, (v.after mint patience c actions).history = v.history ++ news ∧
      ∀ step, .relay step ∈ actions → step.isDelivery c = false → step ∈ news := by
  induction actions generalizing v with
  | nil => exact ⟨[], (List.append_nil _).symm, by simp⟩
  | cons action rest ih =>
      obtain ⟨first, hfirst, hthere⟩ := history_act v mint patience c action
      obtain ⟨more, hmore, hlater⟩ := ih (v.act mint patience c action)
      refine ⟨first ++ more, ?_, fun step hmem hdelivery => ?_⟩
      · rw [← List.append_assoc, ← hfirst]
        exact hmore
      · rcases List.mem_cons.mp hmem with heq | hrest
        · exact List.mem_append_left _ (hthere step heq.symm hdelivery)
        · exact List.mem_append_right _ (hlater step hrest hdelivery)

/-- The executor answers the oldest task, and that comes in as a frame. -/
theorem answer_of_accepted {frame : String} {rest : List (Nat × String)}
    (hinbox : v.inbox = (i, frame) :: rest) {interpreter : Interpreter} {document : Document}
    {reply : Json}
    (h : Session.answer interpreter v.document frame = (document, .accepted reply)) :
    v.answer c interpreter = ⟨v.history ++ [.deliver c reply.write], document, rest,
      v.answered ++ [(v.history.length, i)]⟩ := by
  rw [Service.answer, hinbox]
  dsimp only
  rw [h]

/-- An answer to the task that is on its way: once that comes in, the submission returns it by its
next step, whatever else happens. -/
theorem Underway.answer (h : v.Underway mint patience c i s deadline waiter port)
    (hawaits : s.phase = .awaiting deadline waiter)
    (htime : (v.world mint patience).isPast deadline = false) {id : Runes}
    (hid : s.taskId = .text id) {interpreter : Interpreter} {document : Document}
    {results : List OperationResult} (hanswer : Session.answer interpreter v.document s.payload =
      (document, .accepted (.object (Task.envelope id results))))
    (hlasts : (Json.object (Task.envelope id results)).Lasts) :
    (v.answer c interpreter).document = document ∧
      i ∈ ((v.answer c interpreter).world mint patience).ready ∧
      ∀ later, .relay (.resume i) ∈ later → ∃ t,
        (((v.answer c interpreter).after mint patience c later).world
          mint patience).submissions[i]? = some t ∧ t.body = s.body ∧
        t.phase = .finished (.replied (Task.envelope id results)) := by
  have hinbox : v.inbox = [(i, s.payload)] := by
    rw [h.inbox, Submission.handedOver, hawaits]
  have hanswered := answer_of_accepted (c := c) hinbox hanswer
  have hexpects : (v.world mint patience).Expects i s deadline waiter port
      (Json.write (.object (Task.envelope id results))) (Task.envelope id results) := by
    constructor
    case submission => exact h.world.submission
    case awaits => exact hawaits
    case inTime => exact htime
    case reached => exact h.world.connection ▸ h.world.reached
    case opened => exact h.world.opened
    case regular => exact Task.isHeartbeat_envelope id results
    case object => exact Frame.reply?_write hlasts
    case labelled => exact ⟨.text id, rfl, by simp [hid, Json.same, Json.sameItem, Json.isNaN]⟩
  have horderly := World.play_orderly mint patience v.history
  obtain ⟨t, htakes, hready⟩ := hexpects.taken mint horderly h.world.armed
  rw [h.world.connection] at htakes hready
  refine ⟨by rw [hanswered], by rw [hanswered, world_snoc]; exact hready, fun later hmem => ?_⟩
  obtain ⟨rest, hhistory, hthere⟩ := history_after (v.answer c interpreter) mint patience c later
  rw [world_append hhistory, hanswered, World.play_append]
  obtain ⟨u, hu, hphase⟩ := (htakes.play mint hready (World.act_orderly mint _ _ horderly) rest).1
    (hthere (.resume i) hmem rfl)
  obtain ⟨u', hu', hbody⟩ := World.play_body mint h.world.submission
    (.deliver c (Json.write (.object (Task.envelope id results))) :: rest)
  obtain rfl := Option.some.inj (hu.symm.trans hu')
  exact ⟨u, hu, hbody, hphase⟩

end

section

variable (mint : Nat → String) (patience : Patience) (c : Nat) (v : Service) (body : Json.Members)

/-- A body goes there and back. The frame that the executor gets is read as the body with its id,
and until it is answered heartbeats are noted and the submission waits. The answer holds a result
for each operation that was posted; then the submission can go on, and the answer is what it returns
by its next step, whatever else happens. The body itself stays as it was. -/
structure RoundTrip (operations : List Json) (quiet : List ServiceAction)
    (interpreter : Interpreter) (results : List OperationResult) : Prop where
  frame : (v.posted mint patience c body quiet).inbox = [(v.next mint patience,
    Json.write (.object (Task.stamped (v.made mint patience) body)))]
  read : Json.read? (Json.write (.object (Task.stamped (v.made mint patience) body))) =
    .ok (.object (Task.stamped (v.made mint patience) body))
  waits : ∃ s waiter, ((v.posted mint patience c body quiet).world
      mint patience).submissions[v.next mint patience]? = some s ∧ s.body = body ∧
    s.phase = .awaiting (v.deadline mint patience) waiter
  noted : .beat ∈ quiet → ∃ port, ((v.posted mint patience c body quiet).world
    mint patience).ports[c]? = some port ∧ port.connection.heartbeatSeen = true
  entries : results.length = operations.length ∧ ∀ (n : Nat) (operation : Json),
    operations[n]? = some operation → results[n]? = some (interpreter.step
      (interpreter.run v.document ((operations.take n).map .raw)).1 (.raw operation)).2
  answer : Session.answer interpreter v.document
      (Json.write (.object (Task.stamped (v.made mint patience) body))) =
    ((interpreter.run v.document (operations.map .raw)).1,
      .accepted (.object (Task.envelope (Task.sentId (v.made mint patience) body) results)))
  document : ((v.posted mint patience c body quiet).answer c interpreter).document =
    (interpreter.run v.document (operations.map .raw)).1
  ready : v.next mint patience ∈
    (((v.posted mint patience c body quiet).answer c interpreter).world mint patience).ready
  returned : ∀ later, .relay (.resume (v.next mint patience)) ∈ later → ∃ s,
    ((((v.posted mint patience c body quiet).answer c interpreter).after mint patience c
      later).world mint patience).submissions[v.next mint patience]? = some s ∧ s.body = body ∧
    s.phase = .finished (.replied
      (Task.envelope (Task.sentId (v.made mint patience) body) results))

end

/-- Whatever a body posts, whatever document the executor has and however many heartbeats come in,
as long as nothing else goes on on the connection, the link does not break and the answer comes
before the deadline: the body goes there and back. The executor has got the task at once, or as soon
as it is sent if the link was stalled. -/
theorem posted_tasks_return (mint : Nat → String) (patience : Patience) (c : Nat) {v : Service}
    {port : Port} (hvacant : v.Vacant mint patience c port) (hpatience : patience ≠ .overlong)
    {body : Json.Members} {operations : List Json} (hposted : Task.Posted body operations)
    {quiet : List ServiceAction}
    (hquiet : ∀ action ∈ quiet, action.Quiet c (v.next mint patience))
    (htime : ((v.posted mint patience c body quiet).world mint patience).isPast
      (v.deadline mint patience) = false)
    (hgot : port.link = .up ∨ (v.posted mint patience c body quiet).inbox ≠ [])
    (interpreter : Interpreter) {results : List OperationResult}
    (hresults : results = (interpreter.run v.document (operations.map .raw)).2)
    (hlasts : (Json.object
      (Task.envelope (Task.sentId (v.made mint patience) body) results)).Lasts) :
    v.RoundTrip mint patience c body operations quiet interpreter results := by
  subst hresults
  obtain ⟨s, waiter, next, hunder, hbody, hid, hpayload, hphase, hkept, hseen⟩ :=
    hvacant.posted hpatience hposted hquiet htime hgot
  have hanswer := Session.answer_eq_envelope (hposted.taskOf (v.made mint patience)) interpreter
    v.document
  rw [← hpayload, ← hkept] at hanswer
  obtain ⟨hafter, hready, hreturned⟩ := hunder.answer hphase htime hid hanswer (hkept.symm ▸ hlasts)
  rw [hkept] at hanswer hafter hreturned
  rw [hpayload] at hanswer
  constructor
  case frame =>
    refine hunder.inbox.trans ?_
    rw [Submission.handedOver, hphase, hpayload]
  case read => exact hposted.stamped_lasts _
  case waits => exact ⟨s, waiter, hunder.world.submission, hbody, hphase⟩
  case noted => exact fun hbeat => ⟨next, hunder.world.reached, hseen hbeat⟩
  case entries =>
    refine ⟨by rw [Interpreter.length_run, List.length_map], fun n operation hn => ?_⟩
    rw [List.map_take]
    refine Interpreter.getElem?_run interpreter v.document ?_
    rw [List.getElem?_map, hn]
    rfl
  case answer => exact hanswer
  case document => exact hafter
  case ready => exact hready
  case returned =>
    intro later hmem
    obtain ⟨t, ht, hsame, hended⟩ := hreturned later hmem
    exact ⟨t, ht, hsame.trans hbody, hended⟩

/-- Operations of which the first succeeds and the second is none. -/
def pageAndNull : List Json :=
  [.object [("op", .text "CREATE_PAGE"), ("name", .text "About")], .null]

/-- A body with an id that does not count, and with a member that no one reads. -/
def pageTask : Json.Members :=
  [("ops", .list pageAndNull), ("taskId", .text ""), ("note", .bool true)]

theorem pageTask_posted : Task.Posted pageTask pageAndNull where
  operations := rfl
  id value h := by cases h
  lasts := Json.lasts_iff.mpr rfl

/-- An executor has just connected. -/
def justConnected : Service :=
  fresh.after Nat.repr (.lasting 10) 0 [.relay (.connect "designer")]

/-- A body that is answered after two heartbeats goes there and back. -/
theorem posted_tasks_return_beaten :
    justConnected.RoundTrip Nat.repr (.lasting 10) 0 pageTask pageAndNull
      [.beat, .relay (.wait 1), .beat] ⟨"id", .int 0⟩
      (Interpreter.run ⟨"id", .int 0⟩ .fresh (pageAndNull.map .raw)).2 := by
  have hvacant : justConnected.Vacant Nat.repr (.lasting 10) 0
      ⟨.fresh "designer", .fresh, .up⟩ := ⟨⟨rfl, rfl, rfl, by simp, rfl⟩, rfl⟩
  refine posted_tasks_return Nat.repr (.lasting 10) 0 hvacant (by simp) pageTask_posted ?_
    (by decide +kernel) (Or.inl rfl) ⟨"id", .int 0⟩ rfl (Json.lasts_iff.mpr rfl)
  intro action hmem
  simp only [List.mem_cons, List.not_mem_nil, or_false] at hmem
  rcases hmem with rfl | rfl | rfl
  · exact .beat
  · exact .wait 1
  · exact .beat

end Service

end DesignBridge
