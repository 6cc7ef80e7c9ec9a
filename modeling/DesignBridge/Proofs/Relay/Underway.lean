import DesignBridge.Proofs.Relay.Delivery
import DesignBridge.Proofs.Relay.Handing

/-! # A task on its way

A submission that finds its connection working and no one there goes through the gate and sends its
task, or begins to while the link is stalled. From then on it keeps the connection to itself: frames
that are heartbeats are only noted, and as long as its deadline has not passed it waits. The first
other frame is for it.
-/

namespace DesignBridge

section

variable {mint : Nat → String} {w : World} {i c d : Nat} {s t : Submission} {port after : Port}
  {before then_ : Option Port} {phase : Phase} {news : List RelayEvent} {deadline : Option Time}
  {waiter : Nat}

/-- No step changes the body of a submission. -/
theorem Move.body (h : Move mint w i c s before t then_ news) : t.body = s.body := by
  cases h with
  | unopened | joined | entered => exact Submission.settle_body ..
  | rested | abandoned | alone | withdrew | called | sent | rearmed | overdue | ended => rfl

/-- On a working connection with no one there a task is sent, or begins to be while the link is
stalled. -/
theorem Entry.sends (h : Entry w i c s port phase after news) (hidle : port.connection.Idle)
    (hcurrent : w.current? = some c) (hopen : port.connection.closed = false)
    (hworks : ∀ reason, port.link ≠ .broken reason)
    (hmeasured : (s.wire.lookup ↑"ops").bind unmeasuredType? = none)
    (hpatience : w.patience ≠ .overlong)
    (htime : w.isPast (w.patience.deadline? w.now) = false) :
    ∃ waiter connection, port.connection.expect = some (waiter, connection) ∧
      after = { port with connection } ∧
      (phase = .sending (w.patience.deadline? w.now) waiter ∧ port.link = .stalled ∧ news = [] ∨
        phase = .awaiting (w.patience.deadline? w.now) waiter ∧ news = [.sent c s.payload]) := by
  cases h with
  | replaced hreplaced => exact absurd hcurrent hreplaced
  | unmeasured _ htype => exact absurd hmeasured (by simp [htype])
  | overlong _ hoverlong => exact absurd hoverlong hpatience
  | busy _ hexpect => exact absurd hidle.expect (by simp [hexpect])
  | closed _ hexpect hclosed =>
      rw [Connection.expect_closed hexpect, hopen] at hclosed
      cases hclosed
  | broken _ _ _ hlink => exact absurd hlink (hworks _)
  | late _ _ _ _ hpast => exact absurd hpast (by simp [htime])
  | stalled _ hexpect _ hlink => exact ⟨_, _, hexpect, rfl, Or.inl ⟨rfl, hlink, rfl⟩⟩
  | sent _ hexpect => exact ⟨_, _, hexpect, rfl, Or.inr ⟨rfl, rfl⟩⟩

end

namespace World

/-- A task can be sent on a connection at once: it is current and open, its link is not broken, and
no one is at its gate. -/
structure Vacant (w : World) (c : Nat) (port : Port) : Prop where
  current : w.current? = some c
  reached : w.ports[c]? = some port
  opened : port.connection.closed = false
  works : ∀ reason, port.link ≠ .broken reason
  free : port.gate.isOpen = true

/-- A submission has its task on the way on a connection that works: the task is being sent, or it
was sent and the reply is waited for, and none has come yet. -/
structure Underway (w : World) (c i : Nat) (s : Submission) (deadline : Option Time) (waiter : Nat)
    (port : Port) : Prop where
  submission : w.submissions[i]? = some s
  connection : s.connection = c
  uncancelled : s.cancelled = false
  stage : s.phase = .sending deadline waiter ∨ s.phase = .awaiting deadline waiter
  reached : w.ports[c]? = some port
  opened : port.connection.closed = false
  works : ∀ reason, port.link ≠ .broken reason
  armed : port.connection.isArmed waiter = true

end World

section

variable {mint : Nat → String} {w : World} {i c d : Nat} {s t : Submission} {port : Port}
  {then_ : Option Port} {news : List RelayEvent} {deadline : Option Time} {waiter : Nat}

/-- In time, a step leaves such a submission as it is, or completes the sending of its task. -/
theorem Move.goesOn (h : Move mint w i d s w.ports[d]? t then_ news)
    (hunder : w.Underway c i s deadline waiter port) (htime : w.isPast deadline = false) :
    d = c ∧ then_ = some port ∧ (t = s ∧ news = [] ∨ s.phase = .sending deadline waiter ∧
      t = { s with phase := .awaiting deadline waiter } ∧ news = [.sent c s.payload]) := by
  have hphase := hunder.stage
  have hport := hunder.reached
  have hnone : ∀ frame, port.connection.waiters[waiter]? ≠ some (.answered frame) := by
    intro frame
    rw [Connection.isArmed_iff.mp hunder.armed]
    simp
  generalize hbefore : w.ports[d]? = before at h
  cases h with
  | rested hc =>
      obtain rfl : d = c := hc.symm.trans hunder.connection
      exact ⟨rfl, hbefore.symm.trans hport, Or.inl ⟨rfl, rfl⟩⟩
  | sent hsending hc =>
      obtain rfl : d = c := hc.symm.trans hunder.connection
      obtain rfl := Option.some.inj (hport.symm.trans hbefore)
      rw [hsending] at hphase
      obtain ⟨rfl, rfl⟩ : _ = deadline ∧ _ = waiter := by simpa using hphase
      exact ⟨rfl, rfl, Or.inr ⟨hsending, rfl, rfl⟩⟩
  | rearmed hawaits hc hframe | overdue hawaits hc hframe =>
      obtain rfl : d = c := hc.symm.trans hunder.connection
      obtain rfl := Option.some.inj (hport.symm.trans hbefore)
      rw [hawaits] at hphase
      obtain ⟨_, rfl⟩ : _ = deadline ∧ _ = waiter := by simpa using hphase
      exact absurd hframe (hnone _)
  | ended hc hending =>
      obtain rfl : d = c := hc.symm.trans hunder.connection
      obtain rfl := Option.some.inj (hport.symm.trans hbefore)
      cases hending with
      | interrupted _ hcancelled | cancelled _ _ hcancelled =>
          exact absurd hcancelled (by simp [hunder.uncancelled])
      | late hold _ _ hpast | timedOut hold _ _ hpast =>
          rw [hold] at hphase
          obtain ⟨rfl, _⟩ : _ = deadline ∧ _ = waiter := by simpa using hphase
          exact absurd hpast (by simp [htime])
      | broken _ _ hlink => exact absurd hlink (hunder.works _)
      | replied hold hframe | invalid hold hframe | busy hold hframe =>
          rw [hold] at hphase
          obtain ⟨_, rfl⟩ : _ = deadline ∧ _ = waiter := by simpa using hphase
          exact absurd hframe (hnone _)
  | abandoned hold | alone hold | unopened hold | joined hold | entered hold | withdrew hold
  | called hold =>
      rw [hold] at hphase
      simp at hphase

end

namespace World

section

variable {w after : World} {i c : Nat} {s : Submission} {port : Port} {deadline : Option Time}
  {waiter : Nat} {action : RelayAction}

@[simp] theorem wake_minted (w : World) (i : Nat) : (w.wake i).minted = w.minted := by
  unfold wake
  split <;> rfl

/-! The clock never goes back, so what is in time now was in time before. -/

theorem now_le_act (mint : Nat → String) (w : World) (action : RelayAction) :
    w.now ≤ (w.act mint action).now := by
  rcases act_cases mint w action with ⟨i, s, _, _, _, hmoved⟩ | houtside
  · obtain ⟨c, t, port', news, _, hdiffers, _⟩ := hmoved
    exact hdiffers.now ▸ Rat.le_refl
  · exact houtside.now

theorem isPast_of_le (hnow : w.now ≤ after.now) (hlater : after.isPast deadline = false) :
    w.isPast deadline = false := by
  cases deadline with
  | none => rfl
  | some t =>
      simp only [isPast, Option.any_some, decide_eq_false_iff_not] at hlater ⊢
      exact fun hpast => hlater (Rat.le_trans hpast hnow)

/-! ## Bodies -/

theorem act_body (mint : Nat → String) (hs : w.submissions[i]? = some s) (action : RelayAction) :
    ∃ t, (w.act mint action).submissions[i]? = some t ∧ t.body = s.body := by
  rcases act_cases mint w action with ⟨j, u, _, _, hu, hmoved⟩ | houtside
  · obtain ⟨c, t, port', news, hmove, hdiffers, _⟩ := hmoved
    by_cases hj : i = j
    · subst hj
      obtain rfl := Option.some.inj (hs.symm.trans hu)
      exact ⟨t, hdiffers.submission, hmove.body⟩
    · exact ⟨s, (hdiffers.submissions i hj).trans hs, rfl⟩
  · obtain ⟨cancelled, hafter⟩ := houtside.submission i s hs
    exact ⟨_, hafter, rfl⟩

/-- Whatever happens, the body of a submission stays as it was given. -/
theorem play_body (mint : Nat → String) (hs : w.submissions[i]? = some s)
    (rest : List RelayAction) :
    ∃ t, (w.play mint rest).submissions[i]? = some t ∧ t.body = s.body := by
  induction rest generalizing w s with
  | nil => exact ⟨s, hs, rfl⟩
  | cons action rest ih =>
      obtain ⟨t, ht, hbody⟩ := act_body mint hs action
      obtain ⟨u, hu, hlater⟩ := ih ht
      exact ⟨u, hu, hlater.trans hbody⟩

/-! ## On the way -/

namespace Underway

/-- A step of the submission, in time. -/
theorem resume (mint : Nat → String) (h : w.Underway c i s deadline waiter port)
    (htime : w.isPast deadline = false) :
    ∃ phase news, (w.act mint (.resume i)).Underway c i { s with phase } deadline waiter port ∧
      (w.act mint (.resume i)).events = w.events ++ news ∧ (phase = s.phase ∧ news = [] ∨
        s.phase = .sending deadline waiter ∧ phase = .awaiting deadline waiter ∧
          news = [.sent c s.payload]) := by
  by_cases hready : i ∈ w.ready
  · have hact : w.act mint (.resume i) = w.resume mint i := if_pos hready
    obtain ⟨d, t, port', news, hmove, hdiffers, _⟩ := resume_moved mint h.submission
    rw [← hact] at hdiffers
    obtain ⟨rfl, rfl, ⟨rfl, rfl⟩ | ⟨hsending, rfl, rfl⟩⟩ := hmove.goesOn h htime
    · exact ⟨t.phase, [], { h with submission := hdiffers.submission, reached := hdiffers.port },
        hdiffers.events, Or.inl ⟨rfl, rfl⟩⟩
    · exact ⟨_, _, { h with
          submission := hdiffers.submission
          stage := Or.inr rfl
          reached := hdiffers.port }, hdiffers.events, Or.inr ⟨hsending, rfl, rfl⟩⟩
  · have hact : w.act mint (.resume i) = w := if_neg hready
    rw [hact]
    exact ⟨s.phase, [], h, (List.append_nil _).symm, Or.inl ⟨rfl, rfl⟩⟩

/-- What happens outside without touching the waits on the connection, breaking its link or
cancelling the submission. -/
theorem outside (mint : Nat → String) (h : w.Underway c i s deadline waiter port)
    (action : RelayAction) (hother : ∀ j, action ≠ .resume j) (hcancel : action ≠ .cancel i)
    (htouch : ∀ next, Touch c port action next →
      next.connection = port.connection ∧ ∀ reason, next.link ≠ .broken reason) :
    ∃ next, (w.act mint action).Underway c i s deadline waiter next ∧
      next.connection = port.connection := by
  have houtside : Outside w action (w.act mint action) := by
    rcases act_cases mint w action with ⟨j, _, rfl, _⟩ | houtside
    · exact absurd rfl (hother j)
    · exact houtside
  obtain ⟨cancelled, hafter⟩ := houtside.submission i s h.submission
  obtain ⟨next, hnext, htouched⟩ := houtside.port c port h.reached
  obtain ⟨hconnection, hworks⟩ := htouch next htouched
  have hsame : cancelled = s.cancelled :=
    (houtside.cancelled i s _ h.submission hafter).1 hcancel
  subst hsame
  refine ⟨next, { h with
    submission := hafter
    reached := hnext
    works := hworks
    opened := ?_
    armed := ?_ }, hconnection⟩
  · rw [hconnection]
    exact h.opened
  · rw [hconnection]
    exact h.armed

/-- A heartbeat is noted, and no more. -/
theorem beat (mint : Nat → String) (h : w.Underway c i s deadline waiter port) {frame : String}
    (hbeat : Frame.isHeartbeat frame = true) :
    (w.act mint (.deliver c frame)).Underway c i s deadline waiter
      { port with connection := { port.connection with heartbeatSeen := true } } := by
  have hdeliver : port.connection.deliver frame =
      ({ port.connection with heartbeatSeen := true }, none) := by
    simp [Connection.deliver, h.opened, hbeat]
  have hact : w.act mint (.deliver c frame) =
      w.modifyConnection c fun _ => { port.connection with heartbeatSeen := true } := by
    simp only [act, World.deliver, h.reached, hdeliver]
  rw [hact]
  exact { h with reached := by simp [modifyConnection, modifyPort, h.reached] }

end Underway

/-! ## Setting out -/

/-- A body that is submitted leaves a connection vacant. -/
theorem Vacant.submit (h : w.Vacant c port) (body : Json.Members) :
    (w.submit body).1.Vacant c port where
  current := by simpa [World.submit, current?] using h.current
  reached := by simpa [World.submit] using h.reached
  opened := h.opened
  works := h.works
  free := h.free

/-- The first step of a submission that finds its connection vacant. -/
theorem Vacant.resume (mint : Nat → String) (h : w.Vacant c port) (horderly : w.Orderly)
    (hs : w.submissions[i]? = some s) (hfresh : s.phase = .fresh) (hcancelled : s.cancelled = false)
    (hready : i ∈ w.ready)
    (hmeasured : ((s.settle mint w.minted c).wire.lookup ↑"ops").bind unmeasuredType? = none)
    (hpatience : w.patience ≠ .overlong)
    (htime : w.isPast (w.patience.deadline? w.now) = false) :
    ∃ phase waiter next news, (w.act mint (.resume i)).Underway c i
        { s.settle mint w.minted c with phase } (w.patience.deadline? w.now) waiter next ∧
      (w.act mint (.resume i)).events = w.events ++ news ∧
      (phase = .sending (w.patience.deadline? w.now) waiter ∧ port.link = .stalled ∧ news = [] ∨
        phase = .awaiting (w.patience.deadline? w.now) waiter ∧
          news = [.sent c (s.settle mint w.minted c).payload]) := by
  have hact : w.act mint (.resume i) = w.resume mint i := if_pos hready
  have hturn : w.HasTurn c i :=
    ⟨s, port, hs, h.reached, hcancelled, Or.inl ⟨hfresh, h.current, h.free⟩⟩
  have hidle := (horderly.idle h.reached (hturn.vacant horderly)).2
  obtain ⟨d, t, port', news, hmove, hdiffers, _⟩ := resume_moved mint hs
  rw [← hact] at hdiffers
  obtain ⟨rfl, phase, after, rfl, rfl, hentry⟩ :=
    hmove.starts h.reached hcancelled hfresh h.current h.free
  obtain ⟨waiter, connection, hexpect, rfl, hstage⟩ :=
    hentry.sends hidle h.current h.opened h.works hmeasured hpatience htime
  refine ⟨phase, waiter, { port with gate := port.gate.take, connection }, news, ?_,
    hdiffers.events, hstage⟩
  constructor
  case submission => exact hdiffers.submission
  case connection => exact Submission.settle_connection ..
  case uncancelled => exact (Submission.settle_cancelled ..).trans hcancelled
  case stage => exact hstage.imp (·.1) (·.1)
  case reached => exact hdiffers.port
  case opened => exact (Connection.expect_closed hexpect).trans h.opened
  case works => exact h.works
  case armed => exact Connection.isArmed_iff.mpr (Connection.expect_armed hexpect)

/-- A body that is submitted while the connection is vacant is on its way after one step. -/
theorem Vacant.starts (mint : Nat → String) (h : w.Vacant c port) (horderly : w.Orderly)
    {body : Json.Members} {t : Submission} (ht : t = (Submission.fresh body).settle mint w.minted c)
    (hmeasured : (t.wire.lookup ↑"ops").bind unmeasuredType? = none)
    (hpatience : w.patience ≠ .overlong)
    (htime : w.isPast (w.patience.deadline? w.now) = false) :
    ∃ phase waiter next news,
      ((w.act mint (.submit body)).act mint (.resume w.submissions.length)).Underway c
        w.submissions.length { t with phase } (w.patience.deadline? w.now) waiter next ∧
      ((w.act mint (.submit body)).act mint (.resume w.submissions.length)).events =
        (w.act mint (.submit body)).events ++ news ∧
      (phase = .sending (w.patience.deadline? w.now) waiter ∧ port.link = .stalled ∧ news = [] ∨
        phase = .awaiting (w.patience.deadline? w.now) waiter ∧ news = [.sent c t.payload]) := by
  subst ht
  have hvacant : (w.act mint (.submit body)).Vacant c port := h.submit body
  have horderly' := act_orderly mint w (.submit body) horderly
  have hs :
      (w.act mint (.submit body)).submissions[w.submissions.length]? = some (.fresh body) := by
    simp [act, World.submit]
  have hready : w.submissions.length ∈ (w.act mint (.submit body)).ready :=
    mem_ready_wake.mpr (Or.inr rfl)
  have hminted : (w.act mint (.submit body)).minted = w.minted := wake_minted ..
  have hsame : (w.act mint (.submit body)).patience = w.patience := wake_patience ..
  have hnow : (w.act mint (.submit body)).now = w.now := wake_now ..
  have hpast : (w.act mint (.submit body)).isPast (w.patience.deadline? w.now) = false := by
    unfold isPast at htime ⊢
    rwa [hnow]
  have hsteps := hvacant.resume mint horderly' hs rfl rfl hready
  rw [hminted, hsame, hnow] at hsteps
  exact hsteps hmeasured hpatience hpast

theorem act_patience (mint : Nat → String) (w : World) (action : RelayAction) :
    (w.act mint action).patience = w.patience := by
  rcases act_cases mint w action with ⟨i, s, _, _, _, hmoved⟩ | houtside
  · obtain ⟨c, t, port', news, _, hdiffers, _⟩ := hmoved
    exact hdiffers.patience
  · exact houtside.patience

theorem play_patience (mint : Nat → String) (patience : Patience) (history : List RelayAction) :
    ((fresh patience).play mint history).patience = patience :=
  play_induction (P := fun w => w.patience = patience)
    (fun w action hw => (act_patience mint w action).trans hw) rfl history

/-! ## Coming back -/

/-- A frame that a submission expects, while its waiter is armed, is what it takes up next. -/
theorem Expects.taken (mint : Nat → String) {frame : String} {reply : Json.Members}
    (h : w.Expects i s deadline waiter port frame reply) (horderly : w.Orderly)
    (harmed : port.connection.isArmed waiter = true) :
    ∃ t, (w.act mint (.deliver s.connection frame)).TakesUp i t waiter frame reply ∧
      i ∈ (w.act mint (.deliver s.connection frame)).ready := by
  have hanswers : w.Answers s.connection frame i waiter :=
    ⟨exchanges_of_awaiting h.submission h.awaits, ⟨port, h.reached, h.opened, harmed⟩, h.regular⟩
  obtain ⟨_, hreply, hready⟩ := hanswers.deliver horderly h.submission h.awaits
  obtain ⟨cancelled, hafter⟩ :=
    (outside_deliver w s.connection frame).submission i s h.submission
  exact ⟨_, ⟨hafter, ⟨deadline, h.awaits⟩, hreply, h.fits⟩, hready⟩

end

end World

end DesignBridge
