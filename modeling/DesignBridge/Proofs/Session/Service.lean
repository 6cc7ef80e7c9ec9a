import DesignBridge.Proofs.Relay.Delivery
import DesignBridge.Proofs.Session.Serving
import DesignBridge.Proofs.Session.Tasks

/-! # A connection with an executor behind it

The relay and an executor that serves one of its connections. The executor gets the tasks that are
sent there in the order of sending and answers each of them once, after any time; in between it
sends heartbeats. Everything else that happens to the relay happens as it will. A reply that a
submission returns was made for a submission with the same id.
-/

namespace DesignBridge

/-- Whether an action is the arrival of a frame on a connection. -/
def RelayAction.isDelivery (c : Nat) : RelayAction → Bool
  | deliver d _ => d == c
  | _ => false

/-- The payload that an event sends on a connection. -/
def RelayEvent.payloadOn? (c : Nat) : RelayEvent → Option String
  | sent d payload => if d = c then some payload else none
  | _ => none

/-- What is sent on a connection by an action, and by whom. Only steps of submissions send. -/
def RelayAction.sends (c : Nat) (news : List RelayEvent) : RelayAction → List (Nat × String)
  | resume i => (news.filterMap (·.payloadOn? c)).map (i, ·)
  | _ => []

/-- What happens to the relay and the executor. -/
inductive ServiceAction where
  /-- Something that happens to the relay, other than a frame on the connection. -/
  | relay (action : RelayAction)
  /-- The executor sends a heartbeat. -/
  | beat
  /-- The executor answers the oldest task that it has not answered. -/
  | answer (interpreter : Interpreter)

/-- What has happened to the relay, the executor's document, the tasks that it has still to answer,
each with its submission, and where in the history the answer to a submission came in. -/
structure Service where
  history : List RelayAction
  document : Document
  inbox : List (Nat × String)
  answered : List (Nat × Nat)

namespace Service

/-- Before anything has happened. -/
def fresh : Service := ⟨[], .fresh, [], []⟩

section

variable (mint : Nat → String) (patience : Patience) (c : Nat)

/-- The world of the relay. -/
def world (v : Service) : World :=
  (World.fresh patience).play mint v.history

/-- Lets something happen to the relay. What it sends on the connection comes to the executor. -/
def relay (v : Service) (action : RelayAction) : Service :=
  let before := v.world mint patience
  let news := (before.act mint action).events.drop before.events.length
  { v with history := v.history ++ [action], inbox := v.inbox ++ action.sends c news }

/-- Answers the oldest task, if there is one. A reply that cannot be put together is not sent. -/
def answer (interpreter : Interpreter) (v : Service) : Service :=
  match v.inbox with
  | [] => v
  | (i, frame) :: rest =>
    let (document, reply) := Session.answer interpreter v.document frame
    match reply with
    | .rejected _ => { v with document, inbox := rest }
    | .accepted reply =>
      ⟨v.history ++ [.deliver c reply.write], document, rest,
        v.answered ++ [(v.history.length, i)]⟩

/-- What comes of an action. -/
def act (v : Service) : ServiceAction → Service
  | .relay action => if action.isDelivery c then v else v.relay mint patience c action
  | .beat => v.relay mint patience c (.deliver c Session.heartbeat)
  | .answer interpreter => v.answer c interpreter

/-- What comes of a list of actions, from the beginning. -/
def run (actions : List ServiceAction) : Service :=
  actions.foldl (act mint patience c) fresh

/-- Whether a submission has returned a reply that the executor made for a submission: its step took
up the frame that came in as the answer to that one. -/
def Returned (v : Service) (i j : Nat) (reply : Json.Members) : Prop :=
  ∃ before frame middle rest,
    v.history = before ++ .deliver c frame :: middle ++ .resume i :: rest ∧
    World.Consumes mint (World.fresh patience) before c frame middle i reply ∧
    (before.length, j) ∈ v.answered

end

end Service

/-! ## What the executor gets -/

theorem RelayEvent.eq_sent_of_payloadOn? {c : Nat} {event : RelayEvent} {payload : String}
    (h : event.payloadOn? c = some payload) : event = .sent c payload := by
  unfold payloadOn? at h
  split at h
  next d sent =>
    split at h
    next hd =>
      obtain rfl := Option.some.inj h
      rw [hd]
    next => cases h
  next => cases h

theorem RelayAction.of_mem_sends {c : Nat} {news : List RelayEvent} {action : RelayAction}
    {i : Nat} {payload : String} (h : (i, payload) ∈ action.sends c news) :
    action = .resume i ∧ .sent c payload ∈ news := by
  unfold sends at h
  split at h
  next j =>
    obtain ⟨sent, hsent, heq⟩ := List.mem_map.mp h
    obtain ⟨rfl, rfl⟩ := Prod.mk.inj heq
    obtain ⟨event, hevent, hpayload⟩ := List.mem_filterMap.mp hsent
    exact ⟨rfl, RelayEvent.eq_sent_of_payloadOn? hpayload ▸ hevent⟩
  next => cases h

/-- What an action adds to the events, and what the executor gets of it. -/
theorem World.act_events (mint : Nat → String) (w : World) (action : RelayAction) (c : Nat) :
    ∃ news, (w.act mint action).events = w.events ++ news ∧
      (action.sends c news).map Prod.snd = news.filterMap (·.payloadOn? c) := by
  rcases act_cases mint w action with ⟨i, s, rfl, _, _, hmoved⟩ | houtside
  · obtain ⟨d, t, port', news, _, hdiffers, _⟩ := hmoved
    refine ⟨news, hdiffers.events, ?_⟩
    simp [RelayAction.sends, Function.comp_def]
  · obtain ⟨news, hevents, hsilent, _⟩ := houtside.events
    have hnone : news.filterMap (·.payloadOn? c) = [] := by
      rw [List.filterMap_eq_nil_iff]
      intro event hevent
      cases hpayload : event.payloadOn? c with
      | none => rfl
      | some payload =>
          obtain rfl := RelayEvent.eq_sent_of_payloadOn? hpayload
          exact absurd hevent (hsilent c payload)
    refine ⟨news, hevents, ?_⟩
    rw [hnone]
    cases action with
    | resume i => simp [RelayAction.sends, hnone]
    | _ => rfl

/-- What a step sends is read as a task with the id of the submission that took it, joined. -/
theorem World.Tasks.sends {mint : Nat → String} {w : World} (h : w.Tasks) {action : RelayAction}
    {c i : Nat} {payload : String}
    (hmem : (i, payload) ∈
      action.sends c ((w.act mint action).events.drop w.events.length)) :
    ∃ operations id, (w.act mint action).Named i id ∧
      Session.taskOf payload = .ok (operations, .text id.joined) := by
  obtain ⟨rfl, hsent⟩ := RelayAction.of_mem_sends hmem
  rcases act_cases mint w (.resume i) with ⟨j, s, heq, _, hs, hmoved⟩ | houtside
  · obtain rfl := RelayAction.resume.inj heq
    obtain ⟨d, t, port', news, hmove, hdiffers, _⟩ := hmoved
    rw [hdiffers.events, List.drop_left] at hsent
    obtain ⟨hphase, htasked, rfl⟩ := hmove.sends (h i s hs) hsent
    obtain ⟨_, operations, id, _, _, hid, htask⟩ := htasked.taskOf_payload
    exact ⟨operations, id, ⟨t, hdiffers.submission, hphase, hid⟩, htask⟩
  · obtain ⟨news, hevents, hsilent, _⟩ := houtside.events
    rw [hevents, List.drop_left] at hsent
    exact absurd hsent (hsilent c payload)

/-! ## What the executor sends -/

theorem Json.eq_text_of_same {s : Runes} {value : Json} (h : Json.same (.text s) value = true) :
    value = .text s := by
  unfold Json.same Json.sameItem at h
  rw [Bool.and_eq_true] at h
  cases value with
  | text t => rw [beq_iff_eq.mp h.1]
  | null | bool | number | list | object => cases h.1

namespace Service

section

variable (mint : Nat → String) (patience : Patience) (c : Nat)

/-- What holds as long as every body holds a task. Each frame that came in on the connection is a
heartbeat or an answer, each answer carries the id of its submission, joined, if it can be read, and
so does each task that has still to be answered. What was sent on the connection was answered in
that order or has still to be. -/
structure Kept (v : Service) : Prop where
  tasks : (v.world mint patience).Tasks
  delivered : ∀ (k : Nat) frame, v.history[k]? = some (.deliver c frame) →
    frame = Session.heartbeat ∨ ∃ i, (k, i) ∈ v.answered
  answered : ∀ k i, (k, i) ∈ v.answered → ∃ frame id, v.history[k]? = some (.deliver c frame) ∧
    (v.world mint patience).Named i id ∧
    ∀ members, Frame.reply? frame = some members → members.lookup ↑"taskId" = some (.text id.joined)
  inbox : ∀ i payload, (i, payload) ∈ v.inbox → ∃ operations id,
    (v.world mint patience).Named i id ∧
      Session.taskOf payload = .ok (operations, .text id.joined)
  order : ∃ taken, (v.world mint patience).events.filterMap (·.payloadOn? c) =
    (taken ++ v.inbox).map Prod.snd ∧ v.answered.map Prod.snd = taken.map Prod.fst

theorem fresh_kept : Kept mint patience c fresh where
  tasks i s hs := by simp [fresh, world, World.fresh] at hs
  delivered k frame h := by simp [fresh] at h
  answered k i h := by simp [fresh] at h
  inbox i payload h := by simp [fresh] at h
  order := ⟨[], rfl, rfl⟩

end

section

variable {mint : Nat → String} {patience : Patience} {c : Nat} {v : Service}

theorem snoc_cases {history : List RelayAction} {action x : RelayAction} {k : Nat}
    (h : (history ++ [action])[k]? = some x) :
    history[k]? = some x ∨ k = history.length ∧ x = action := by
  rcases Nat.lt_or_ge k history.length with hlt | hge
  · rw [List.getElem?_append_left hlt] at h
    exact Or.inl h
  · rw [List.getElem?_append_right hge] at h
    have hlast := List.getElem?_eq_some_iff.mp h
    obtain ⟨hk, hx⟩ := hlast
    simp only [List.length_singleton] at hk
    have hk : k - history.length = 0 := by omega
    simp only [hk, List.getElem_cons_zero] at hx
    exact Or.inr ⟨by omega, hx.symm⟩

theorem getElem?_snoc {history : List RelayAction} {x : RelayAction} {k : Nat}
    (h : history[k]? = some x) (action : RelayAction) : (history ++ [action])[k]? = some x := by
  rw [List.getElem?_append_left (List.getElem?_eq_some_iff.mp h).1]
  exact h

theorem world_snoc (mint : Nat → String) (patience : Patience) (history : List RelayAction)
    (action : RelayAction) (document : Document) (inbox : List (Nat × String))
    (answered : List (Nat × Nat)) :
    world mint patience ⟨history ++ [action], document, inbox, answered⟩ =
      ((World.fresh patience).play mint history).act mint action :=
  World.play_snoc action

theorem world_append {first rest : List RelayAction} (h : v.history = first ++ rest) :
    v.world mint patience = ((World.fresh patience).play mint first).play mint rest := by
  unfold world
  rw [h, World.play_append]

theorem relay_world (mint : Nat → String) (patience : Patience) (c : Nat) (v : Service)
    (action : RelayAction) : (v.relay mint patience c action).world mint patience =
      (v.world mint patience).act mint action :=
  World.play_snoc action

theorem relay_inbox {action : RelayAction} {news : List RelayEvent}
    (h : ((v.world mint patience).act mint action).events =
      (v.world mint patience).events ++ news) :
    (v.relay mint patience c action).inbox = v.inbox ++ action.sends c news := by
  unfold Service.relay
  dsimp only
  rw [h, List.drop_left]

/-- Something that happens to the relay keeps this, unless a frame comes in that is no heartbeat or
a body that holds no task. -/
theorem Kept.relay (h : Kept mint patience c v) {action : RelayAction}
    (hbody : ∀ body, action = .submit body → Task.Arrives body)
    (hframe : ∀ frame, action = .deliver c frame → frame = Session.heartbeat) :
    Kept mint patience c (v.relay mint patience c action) := by
  have hworld := relay_world mint patience c v action
  constructor
  case tasks =>
    rw [hworld]
    exact h.tasks.act mint hbody
  case delivered =>
    intro k frame hk
    rcases snoc_cases hk with hk | ⟨_, hlast⟩
    · exact h.delivered k frame hk
    · exact Or.inl (hframe frame hlast.symm)
  case answered =>
    intro k i hmem
    obtain ⟨frame, id, hk, hnamed, hlabel⟩ := h.answered k i hmem
    rw [hworld]
    exact ⟨frame, id, getElem?_snoc hk action, hnamed.act mint action, hlabel⟩
  case inbox =>
    intro i payload hmem
    rw [hworld]
    rcases List.mem_append.mp hmem with hold | hnew
    · obtain ⟨operations, id, hnamed, htask⟩ := h.inbox i payload hold
      exact ⟨operations, id, hnamed.act mint action, htask⟩
    · exact h.tasks.sends hnew
  case order =>
    obtain ⟨taken, hsent, hanswered⟩ := h.order
    obtain ⟨news, hevents, hnews⟩ := World.act_events mint (v.world mint patience) action c
    refine ⟨taken, ?_, hanswered⟩
    rw [hworld, relay_inbox hevents, hevents, List.filterMap_append, hsent, ← hnews,
      ← List.map_append, List.append_assoc]

/-- So does an answer: it comes in as the answer to the task that it was made for. -/
theorem Kept.answer (h : Kept mint patience c v) (interpreter : Interpreter) :
    Kept mint patience c (v.answer c interpreter) := by
  unfold Service.answer
  split
  next => exact h
  next i frame rest hinbox =>
    obtain ⟨operations, id, hnamed, htask⟩ := h.inbox i frame (hinbox ▸ List.mem_cons_self ..)
    have hreply := Session.answer_of_task htask interpreter v.document
    have hrest : ∀ j payload, (j, payload) ∈ rest → (j, payload) ∈ v.inbox := by
      intro j payload hmem
      rw [hinbox]
      exact List.mem_cons_of_mem _ hmem
    dsimp only
    rw [hreply]
    dsimp only
    generalize hr : (Reply.mk true _ (some id.joined) none none) = reply
    have hid : reply.taskId = some id.joined := by rw [← hr]
    constructor
    case tasks =>
      rw [world_snoc]
      exact h.tasks.act mint (by simp)
    case delivered =>
      intro k other hk
      rcases snoc_cases hk with hk | ⟨rfl, _⟩
      · exact (h.delivered k other hk).imp_right fun ⟨j, hj⟩ => ⟨j, List.mem_append_left _ hj⟩
      · exact Or.inr ⟨i, List.mem_append_right _ (List.mem_singleton_self _)⟩
    case answered =>
      intro k j hmem
      rw [world_snoc]
      rcases List.mem_append.mp hmem with hold | hnew
      · obtain ⟨other, name, hk, hother, hlabel⟩ := h.answered k j hold
        exact ⟨other, name, getElem?_snoc hk _, hother.act mint _, hlabel⟩
      · obtain ⟨rfl, rfl⟩ := Prod.mk.inj (List.mem_singleton.mp hnew)
        refine ⟨reply.toWire.write, id, by simp, hnamed.act mint _, fun members hread => ?_⟩
        rw [Reply.id_of_reply? hid hread, show id.joined.joined = id.joined from id.settled_joined]
    case inbox =>
      intro j payload hmem
      rw [world_snoc]
      obtain ⟨operations', name, hother, htask'⟩ := h.inbox j payload (hrest j payload hmem)
      exact ⟨operations', name, hother.act mint _, htask'⟩
    case order =>
      obtain ⟨taken, hsent, hanswered⟩ := h.order
      obtain ⟨news, hevents, hnews⟩ := World.act_events mint (v.world mint patience)
        (.deliver c reply.toWire.write) c
      refine ⟨taken ++ [(i, frame)], ?_, by simp [hanswered]⟩
      have hnone : news.filterMap (·.payloadOn? c) = [] := hnews.symm
      have hevents' : (((World.fresh patience).play mint v.history).act mint
          (.deliver c reply.toWire.write)).events = (v.world mint patience).events ++ news :=
        hevents
      rw [world_snoc, hevents', List.filterMap_append, hnone, List.append_nil, hsent, hinbox]
      simp

theorem Kept.act (h : Kept mint patience c v) {action : ServiceAction}
    (hbody : ∀ body, action = .relay (.submit body) → Task.Arrives body) :
    Kept mint patience c (v.act mint patience c action) := by
  cases action with
  | relay action =>
      simp only [Service.act]
      split
      next => exact h
      next hdelivery =>
        refine h.relay (fun body heq => hbody body (heq ▸ rfl)) fun frame heq => ?_
        subst heq
        simp [RelayAction.isDelivery] at hdelivery
  | beat => exact h.relay (by simp) fun frame heq => (RelayAction.deliver.inj heq).2.symm
  | answer interpreter => exact h.answer interpreter

/-- Every action that brings no body without a task keeps this, and so does a list of them. -/
theorem Kept.foldl (h : Kept mint patience c v) (actions : List ServiceAction)
    (hbodies : ∀ body, .relay (.submit body) ∈ actions → Task.Arrives body) :
    Kept mint patience c (actions.foldl (Service.act mint patience c) v) := by
  induction actions generalizing v with
  | nil => exact h
  | cons action rest ih =>
      have hnext := h.act fun body heq => hbodies body (heq ▸ List.mem_cons_self ..)
      exact ih hnext fun body hmem => hbodies body (List.mem_cons_of_mem _ hmem)

/-! ## Whose reply is returned -/

/-- What a submission takes up is what it has returned in the end. -/
theorem Returned.replied {i j : Nat} {reply : Json.Members}
    (h : v.Returned mint patience c i j reply) :
    ∃ s, (v.world mint patience).submissions[i]? = some s ∧ s.connection = c ∧
      s.phase = .finished (.replied reply) := by
  obtain ⟨before, frame, middle, rest, hhistory, ⟨waiter, s, _, hconnection, htakes⟩, _⟩ := h
  -- Whoever has got a frame can go on, so the step was taken.
  obtain ⟨deadline, hawaits⟩ := htakes.awaits
  have hready := World.play_awake mint patience _ i s deadline waiter frame htakes.submission
    hawaits htakes.answered
  obtain ⟨t, ht, hphase⟩ := htakes.resume mint hready
  obtain ⟨u, hu, hfinished⟩ := World.play_finished mint ht hphase rest
  obtain ⟨u', hu', _, _, hkept⟩ := World.play_kept mint htakes.submission (by simp [hawaits])
    (.resume i :: rest)
  rw [World.play_cons] at hu'
  obtain rfl := Option.some.inj (hu.symm.trans hu')
  rw [world_append hhistory, World.play_cons]
  exact ⟨u, hu, hkept.trans hconnection, hfinished⟩

/-- Whoever has returned a reply on the connection has returned the one that was made for some
submission. -/
theorem Kept.returned (h : Kept mint patience c v) {i : Nat} {s : Submission}
    {reply : Json.Members} (hs : (v.world mint patience).submissions[i]? = some s)
    (hconnection : s.connection = c) (hphase : s.phase = .finished (.replied reply)) :
    ∃ j, v.Returned mint patience c i j reply := by
  obtain ⟨before, frame, middle, rest, hhistory, hconsumes, _, hregular, _⟩ :=
    ((World.record mint patience v.history).returned i s reply hs hphase).consumes
  rw [hconnection] at hhistory hconsumes
  have hdelivered : v.history[before.length]? = some (.deliver c frame) := by
    rw [hhistory]
    simp
  -- A heartbeat answers no wait, so the frame is an answer.
  rcases h.delivered before.length frame hdelivered with rfl | ⟨j, hj⟩
  · rw [Session.isHeartbeat_heartbeat] at hregular
    cases hregular
  · exact ⟨j, before, frame, middle, rest, hhistory, hconsumes, hj⟩

/-- The submission that returns a reply has the id, joined, of the one that it was made for. -/
theorem Kept.named_of_returned (h : Kept mint patience c v) {i j : Nat} {reply : Json.Members}
    (hreturned : v.Returned mint patience c i j reply) :
    ∃ id, (v.world mint patience).Named i id.joined ∧ (v.world mint patience).Named j id := by
  obtain ⟨before, frame, middle, rest, hhistory, ⟨waiter, s, _, _, htakes⟩, hanswered⟩ := hreturned
  obtain ⟨other, id, hdelivered, hnamed, hlabel⟩ := h.answered before.length j hanswered
  have hframe : v.history[before.length]? = some (.deliver c frame) := by
    rw [hhistory]
    simp
  -- The frame that was taken up is the answer to `j`, so the id in it is that of `j`.
  obtain ⟨_, rfl⟩ := RelayAction.deliver.inj (Option.some.inj (hdelivered.symm.trans hframe))
  obtain ⟨hreply, hfits⟩ := World.classify_fitting htakes.fits
  have hid : s.taskId = .text id.joined := by
    rcases hfits _ (hlabel _ hreply) with hnull | hsame
    · cases hnull
    · exact Json.eq_text_of_same hsame
  obtain ⟨deadline, hawaits⟩ := htakes.awaits
  obtain ⟨t, ht, hphase, hsame, _⟩ := World.play_kept mint htakes.submission (by simp [hawaits])
    (.resume i :: rest)
  refine ⟨id, ⟨t, ?_, hphase, hsame.trans hid⟩, hnamed⟩
  rw [world_append hhistory]
  exact ht

end

theorem run_kept (mint : Nat → String) (patience : Patience) (c : Nat)
    (actions : List ServiceAction)
    (hbodies : ∀ body, .relay (.submit body) ∈ actions → Task.Arrives body) :
    Kept mint patience c (run mint patience c actions) :=
  (fresh_kept mint patience c).foldl actions hbodies

/-- The executor answers what is sent on the connection in the order of sending, each task once. -/
theorem answers_keep_order (mint : Nat → String) (patience : Patience) (c : Nat)
    (actions : List ServiceAction)
    (hbodies : ∀ body, .relay (.submit body) ∈ actions → Task.Arrives body) :
    ∃ taken, ((run mint patience c actions).world mint patience).events.filterMap
        (·.payloadOn? c) = (taken ++ (run mint patience c actions).inbox).map Prod.snd ∧
      (run mint patience c actions).answered.map Prod.snd = taken.map Prod.fst :=
  (run_kept mint patience c actions hbodies).order

/-- However submissions, delays, timeouts and other events are mixed, as long as every body holds a
task: a submission has returned a reply on the connection just when it has returned the one that
the executor made for some submission, and the id of that one is its own, as text holds it. So the
late reply of an earlier submission is never returned by one with another id. -/
theorem replies_keep_to_ids (mint : Nat → String) (patience : Patience) (c : Nat)
    (actions : List ServiceAction)
    (hbodies : ∀ body, .relay (.submit body) ∈ actions → Task.Arrives body) :
    (∀ i reply,
      (∃ s, ((run mint patience c actions).world mint patience).submissions[i]? = some s ∧
        s.connection = c ∧ s.phase = .finished (.replied reply)) ↔
      ∃ j, (run mint patience c actions).Returned mint patience c i j reply) ∧
    ∀ i j reply, (run mint patience c actions).Returned mint patience c i j reply →
      ∃ id, ((run mint patience c actions).world mint patience).Named i id.joined ∧
        ((run mint patience c actions).world mint patience).Named j id := by
  have hkept := run_kept mint patience c actions hbodies
  refine ⟨fun i reply => ⟨?_, ?_⟩, fun i j reply => hkept.named_of_returned⟩
  · rintro ⟨s, hs, hconnection, hphase⟩
    exact hkept.returned hs hconnection hphase
  · rintro ⟨j, hreturned⟩
    exact hreturned.replied

/-- A body with an id and without operations. -/
def emptyTask (id : String) : Json.Members :=
  [("ops", .list []), ("taskId", .text id)]

theorem emptyTask_arrives (id : String) : Task.Arrives (emptyTask id) where
  text := by
    refine ⟨(Json.write (.object (emptyTask id))).toList.map .char, ?_⟩
    have hid : (id : Runes).joined = id := Runes.settled_ofString id
    simp only [Json.readRunes?_write, emptyTask, Json.reread, Json.rereadMembers, Json.rereadItems,
      hid]
    rfl
  accepted := ⟨⟨[], some id⟩, rfl⟩

/-- A run in which a task with one id is given up, and its reply comes in while a task with another
waits for its own. -/
def lateReply (first second : String) : List ServiceAction :=
  [.relay (.connect "designer"), .relay (.submit (emptyTask first)), .relay (.resume 0),
    .relay (.wait 10), .relay (.resume 0), .relay (.submit (emptyTask second)), .relay (.resume 1),
    .answer ⟨"id", .int 0⟩, .relay (.resume 1), .beat, .answer ⟨"id", .int 0⟩, .relay (.resume 1)]

theorem lateReply_bodies (first second : String) :
    ∀ body, .relay (.submit body) ∈ lateReply first second → Task.Arrives body := by
  intro body hmem
  simp only [lateReply, List.mem_cons, ServiceAction.relay.injEq, RelayAction.submit.injEq,
    reduceCtorEq, List.not_mem_nil, or_false, false_or] at hmem
  rcases hmem with rfl | rfl
  · exact emptyTask_arrives first
  · exact emptyTask_arrives second

/-- Whether a submission has returned a reply on a connection. -/
def hasReturned (v : Service) (mint : Nat → String) (patience : Patience) (c i : Nat) : Bool :=
  ((v.world mint patience).submissions[i]?).any fun s => s.connection == c && s.hasReplied

theorem of_hasReturned {v : Service} {mint : Nat → String} {patience : Patience} {c i : Nat}
    (h : v.hasReturned mint patience c i = true) :
    ∃ s reply, (v.world mint patience).submissions[i]? = some s ∧ s.connection = c ∧
      s.phase = .finished (.replied reply) := by
  obtain ⟨s, hs, h⟩ := (Option.any_eq_true _ _).mp h
  rw [Bool.and_eq_true, beq_iff_eq] at h
  obtain ⟨reply, hphase⟩ := Submission.of_hasReplied h.2
  exact ⟨s, reply, hs, h.1, hphase⟩

/-- There the task that waits gets a reply with its own id, behind the late one. -/
theorem replies_keep_to_ids_late : ∃ j reply id,
    (run (fun _ => "") (.lasting 10) 0 (lateReply "old" "new")).Returned (fun _ => "")
      (.lasting 10) 0 1 j reply ∧
    ((run (fun _ => "") (.lasting 10) 0 (lateReply "old" "new")).world (fun _ => "")
      (.lasting 10)).Named 1 id.joined ∧
    ((run (fun _ => "") (.lasting 10) 0 (lateReply "old" "new")).world (fun _ => "")
      (.lasting 10)).Named j id := by
  have hreplied : (run (fun _ => "") (.lasting 10) 0 (lateReply "old" "new")).hasReturned
      (fun _ => "") (.lasting 10) 0 1 = true := by decide +kernel
  obtain ⟨s, reply, hs⟩ := of_hasReturned hreplied
  have ⟨hreturned, hnamed⟩ := replies_keep_to_ids (fun _ => "") (.lasting 10) 0
    (lateReply "old" "new") (lateReply_bodies "old" "new")
  obtain ⟨j, hj⟩ := (hreturned 1 reply).mp ⟨s, hs⟩
  obtain ⟨id, hid⟩ := hnamed 1 j reply hj
  exact ⟨j, reply, id, hj, hid⟩

/-- With one id for both tasks the one that waits gets the late reply to the other. -/
theorem reply_to_namesake_returned : ¬ ∀ (mint : Nat → String) (patience : Patience) (c : Nat)
    (actions : List ServiceAction),
    (∀ body, .relay (.submit body) ∈ actions → Task.Arrives body) →
    ∀ i j reply, (run mint patience c actions).Returned mint patience c i j reply → i = j := by
  intro hall
  have hreplied : (run (fun _ => "") (.lasting 10) 0 ((lateReply "same" "same").take 9)).hasReturned
      (fun _ => "") (.lasting 10) 0 1 = true := by decide +kernel
  have hfirst : (run (fun _ => "") (.lasting 10) 0 ((lateReply "same" "same").take 9)).answered.all
      (·.2 == 0) = true := by decide +kernel
  have hbodies : ∀ body, .relay (.submit body) ∈ (lateReply "same" "same").take 9 →
      Task.Arrives body := fun body hmem =>
    lateReply_bodies "same" "same" body (List.mem_of_mem_take hmem)
  obtain ⟨s, reply, hs, hconnection, hphase⟩ := of_hasReturned hreplied
  have hkept := run_kept (fun _ => "") (.lasting 10) 0 _ hbodies
  obtain ⟨j, hreturned⟩ := hkept.returned hs hconnection hphase
  have hone := hall _ _ _ _ hbodies 1 j reply hreturned
  obtain ⟨before, frame, middle, rest, _, _, hanswered⟩ := hreturned
  have hzero := List.all_eq_true.mp hfirst _ hanswered
  simp [← hone] at hzero

end Service

end DesignBridge
