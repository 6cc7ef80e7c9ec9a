import DesignBridge.Proofs.Relay.Correlation

/-! # What becomes of a reply that comes in

A submission whose waiter has got a frame can go on, and its next step takes the frame up whatever
else happens before. So a fitting frame that finds the waiter armed is returned. A fitting frame
that comes in behind a stale one, before the submission has taken its step, finds no armed waiter
and is dropped.
-/

namespace DesignBridge

/-- Decides whether a reply carries the id of another task. -/
def ReplyClass.isStale : ReplyClass → Bool
  | stale => true
  | _ => false

theorem ReplyClass.eq_stale_of_isStale {kind : ReplyClass} (h : kind.isStale = true) :
    kind = .stale := by
  cases kind with
  | stale => rfl
  | invalid | fitting => cases h

section

variable {mint : Nat → String} {w : World} {i c : Nat} {s t : Submission} {port : Port}
  {before then_ : Option Port} {news : List RelayEvent} {deadline : Option Time} {waiter : Nat}
  {frame : String}

/-- A submission that takes its step while its waiter holds a fitting frame returns its object. -/
theorem Move.takes_fitting (h : Move mint w i c s before t then_ news)
    (hawaits : s.phase = .awaiting deadline waiter) (hport : before = some port)
    (hframe : port.connection.waiters[waiter]? = some (.answered frame)) {reply : Json.Members}
    (hfits : classify s.taskId frame = .fitting reply) :
    t.phase = .finished (.replied reply) := by
  subst hport
  cases h with
  | rested _ hrests =>
      have hrest := hrests port rfl
      simp only [Submission.Rests, hawaits] at hrest
      exact absurd hframe (hrest.1 frame)
  | rearmed hwaits _ hother hstale | overdue hwaits _ hother hstale =>
      obtain ⟨_, rfl⟩ := Phase.awaiting.inj (hawaits.symm.trans hwaits)
      obtain rfl := Waiter.answered.inj (Option.some.inj (hframe.symm.trans hother))
      rw [hfits] at hstale
      cases hstale
  | ended _ hending =>
      cases hending with
      | interrupted hphase | late hphase | broken hphase =>
          rw [hawaits] at hphase
          cases hphase
      | replied hwaits hother hreply =>
          obtain ⟨_, rfl⟩ := Phase.awaiting.inj (hawaits.symm.trans hwaits)
          obtain rfl := Waiter.answered.inj (Option.some.inj (hframe.symm.trans hother))
          rw [hfits] at hreply
          obtain rfl := ReplyClass.fitting.inj hreply
          rfl
      | invalid hwaits hother hreply | busy hwaits hother hreply =>
          obtain ⟨_, rfl⟩ := Phase.awaiting.inj (hawaits.symm.trans hwaits)
          obtain rfl := Waiter.answered.inj (Option.some.inj (hframe.symm.trans hother))
          rw [hfits] at hreply
          cases hreply
      | cancelled hwaits hnone | timedOut hwaits hnone =>
          obtain ⟨_, rfl⟩ := Phase.awaiting.inj (hawaits.symm.trans hwaits)
          exact absurd hframe (hnone frame)
  | abandoned hphase | alone hphase | joined hphase | entered hphase | withdrew hphase
  | called hphase | sent hphase =>
      rw [hawaits] at hphase
      cases hphase

/-- A submission that takes its step in time while its waiter holds a stale frame waits again. -/
theorem Move.takes_stale (h : Move mint w i c s before t then_ news)
    (hawaits : s.phase = .awaiting deadline waiter) (hport : before = some port)
    (hframe : port.connection.waiters[waiter]? = some (.answered frame))
    (hstale : classify s.taskId frame = .stale) (htime : w.isPast deadline = false)
    (hidle : port.connection.Idle) :
    ∃ next connection, t.phase = .awaiting deadline next ∧
      port.connection.expect = some (next, connection) ∧ then_ = some { port with connection } := by
  subst hport
  cases h with
  | rested _ hrests =>
      have hrest := hrests port rfl
      simp only [Submission.Rests, hawaits] at hrest
      exact absurd hframe (hrest.1 frame)
  | rearmed hwaits _ _ _ hexpect =>
      obtain ⟨rfl, _⟩ := Phase.awaiting.inj (hawaits.symm.trans hwaits)
      exact ⟨_, _, rfl, hexpect, rfl⟩
  | overdue hwaits _ _ _ _ hpast =>
      obtain ⟨rfl, _⟩ := Phase.awaiting.inj (hawaits.symm.trans hwaits)
      rw [htime] at hpast
      cases hpast
  | ended _ hending =>
      cases hending with
      | interrupted hphase | late hphase | broken hphase =>
          rw [hawaits] at hphase
          cases hphase
      | replied hwaits hother hreply | invalid hwaits hother hreply =>
          obtain ⟨_, rfl⟩ := Phase.awaiting.inj (hawaits.symm.trans hwaits)
          obtain rfl := Waiter.answered.inj (Option.some.inj (hframe.symm.trans hother))
          rw [hstale] at hreply
          cases hreply
      | busy _ _ _ hexpect =>
          rw [hidle.expect] at hexpect
          cases hexpect
      | cancelled hwaits hnone | timedOut hwaits hnone =>
          obtain ⟨_, rfl⟩ := Phase.awaiting.inj (hawaits.symm.trans hwaits)
          exact absurd hframe (hnone frame)
  | abandoned hphase | alone hphase | joined hphase | entered hphase | withdrew hphase
  | called hphase | sent hphase =>
      rw [hawaits] at hphase
      cases hphase

/-- A submission that waits takes its step on the connection on which it waits. -/
theorem Move.connection_of_awaiting (h : Move mint w i c s before t then_ news)
    (hawaits : s.phase = .awaiting deadline waiter) : s.connection = c := by
  cases h with
  | rested hc | rearmed _ hc | overdue _ hc | ended hc => exact hc
  | abandoned hphase | alone hphase | unopened hphase | joined hphase | entered hphase
  | withdrew hphase | called hphase | sent hphase =>
      rw [hawaits] at hphase
      cases hphase

/-- A submission that has ended takes no more steps. -/
theorem Move.eq_of_finished (h : Move mint w i c s before t then_ news) {outcome : Outcome}
    (hphase : s.phase = .finished outcome) : t = s := by
  cases h with
  | rested => rfl
  | ended _ hending =>
      have hwaiter := hending.waiter?
      rw [hphase] at hwaiter
      cases hwaiter
  | abandoned hold | alone hold | unopened hold | joined hold | entered hold | withdrew hold
  | called hold | sent hold | rearmed hold | overdue hold =>
      rw [hphase] at hold
      cases hold

end

namespace World

/-! ## Going on with a reply -/

theorem exchanges_of_awaiting {w : World} {i : Nat} {s : Submission} {deadline : Option Time}
    {waiter : Nat} (hs : w.submissions[i]? = some s)
    (hawaits : s.phase = .awaiting deadline waiter) :
    w.Exchanges s.connection i waiter :=
  ⟨s, hs, (Submission.waiterAt?_of_eq rfl).trans (congrArg Phase.waiter? hawaits)⟩

/-- A frame for a submission that waits answers its waiter and lets it go on. -/
theorem Answers.deliver {w : World} {i waiter : Nat} {s : Submission} {deadline : Option Time}
    {frame : String} (horderly : w.Orderly) (hs : w.submissions[i]? = some s)
    (hawaits : s.phase = .awaiting deadline waiter)
    (hanswers : w.Answers s.connection frame i waiter) :
    (w.deliver s.connection frame).2 = true ∧
      (w.deliver s.connection frame).1.HasReply s.connection waiter frame ∧
      i ∈ (w.deliver s.connection frame).1.ready := by
  obtain ⟨port, hport, hopen, harmed⟩ := hanswers.port
  obtain ⟨port', hport', hholds⟩ := horderly.holds hanswers.exchange
  obtain rfl := Option.some.inj (hport.symm.trans hport')
  have hlt : waiter < port.connection.waiters.length :=
    (List.getElem?_eq_some_iff.mp (Connection.isArmed_iff.mp harmed)).1
  obtain ⟨hi, hget⟩ := List.getElem?_eq_some_iff.mp hs
  have hfind : w.submissions.findIdx? (awaits s.connection waiter) = some i := by
    rw [List.findIdx?_eq_some_iff_getElem]
    refine ⟨hi, by simp [hget, awaits, hawaits], ?_⟩
    intro j hj hother
    have hmem : w.submissions[j]? = some w.submissions[j] := List.getElem?_eq_getElem _
    unfold awaits at hother
    split at hother
    next deadline' n hphase =>
      simp only [Bool.and_eq_true, beq_iff_eq] at hother
      have hexchange := exchanges_of_awaiting hmem hphase
      rw [hother.1] at hexchange
      have heq := horderly.alone hexchange hanswers.exchange
      omega
    next => cases hother
  have hdeliver : w.deliver s.connection frame =
      ((w.modifyConnection s.connection fun _ =>
        { port.connection.setWaiter waiter (.answered frame) with slot := none }).wake i,
        true) := by
    unfold World.deliver
    rw [hport]
    dsimp only
    rw [hholds.deliver_armed harmed hopen hanswers.regular]
    dsimp only
    rw [show (w.modifyConnection s.connection _).submissions = w.submissions from rfl, hfind]
    rfl
  rw [hdeliver]
  refine ⟨rfl, ⟨{ port with connection :=
    { port.connection.setWaiter waiter (.answered frame) with slot := none } }, ?_, ?_⟩, ?_⟩
  · simp [modifyConnection, modifyPort, hport]
  · simp [Connection.setWaiter, hlt]
  · exact mem_ready_wake.mpr (Or.inr rfl)

/-- Whoever waits and has got a frame can go on. -/
def Awake (w : World) : Prop :=
  ∀ (i : Nat) (s : Submission) deadline waiter frame, w.submissions[i]? = some s →
    s.phase = .awaiting deadline waiter → w.HasReply s.connection waiter frame → i ∈ w.ready

theorem act_awake (mint : Nat → String) (w : World) (action : RelayAction)
    (h : w.Orderly ∧ w.Awake) : (w.act mint action).Orderly ∧ (w.act mint action).Awake := by
  obtain ⟨horderly, hawake⟩ := h
  refine ⟨act_orderly mint w action horderly, ?_⟩
  intro j t deadline waiter frame ht hawaits hreply
  have hexchange := exchanges_of_awaiting ht hawaits
  rcases act_cases mint w action with ⟨i, s, _, _, hs, hmoved⟩ | houtside
  · obtain ⟨hbefore, hreply'⟩ := hmoved.answered hs horderly hexchange hreply
    obtain ⟨c, t', port', news, hmove, hdiffers, hwoken⟩ := hmoved
    by_cases hj : j = i
    · subst hj
      obtain rfl := Option.some.inj (hdiffers.submission.symm.trans ht)
      obtain ⟨port, hport, hframe⟩ := hreply
      rw [hmove.connection_eq (congrArg Phase.waiter? hawaits), hdiffers.port] at hport
      exact hwoken port deadline waiter frame hport hawaits hframe
    · rw [hdiffers.submissions j hj] at ht
      exact hdiffers.ready j (hawake j t deadline waiter frame ht hawaits hreply') hj
  · obtain ⟨hbefore, hcases⟩ := houtside.answered horderly hexchange hreply
    cases hs : w.submissions[j]? with
    | none =>
        obtain ⟨body, _, rfl⟩ := houtside.joined j t ht hs
        cases hawaits
    | some s =>
        obtain ⟨cancelled, hafter⟩ := houtside.submission j s hs
        obtain rfl := Option.some.inj (ht.symm.trans hafter)
        rcases hcases with hreply' | ⟨rfl, hanswers⟩
        · exact houtside.ready j (hawake j s deadline waiter frame hs hawaits hreply')
            (by simp [hs])
        · exact (hanswers.deliver horderly hs hawaits).2.2

/-- After every history, whoever waits and has got a frame can go on. -/
theorem play_awake (mint : Nat → String) (patience : Patience) (history : List RelayAction) :
    ((fresh patience).play mint history).Awake := by
  refine (play_induction (act_awake mint) ⟨fresh_orderly patience, ?_⟩ history).2
  intro i s deadline waiter frame hs
  simp [fresh] at hs

/-- A frame that a waiter has got stays there, whatever comes from outside. -/
theorem Outside.hasReply {w after : World} {action : RelayAction} {c waiter : Nat}
    {frame : String} (h : Outside w action after) (hreply : w.HasReply c waiter frame) :
    after.HasReply c waiter frame := by
  obtain ⟨port, hport, hframe⟩ := hreply
  obtain ⟨next, hnext, htouch⟩ := h.port c port hport
  refine ⟨next, hnext, ?_⟩
  cases htouch with
  | untouched | linked | closed | withdrew => exact hframe
  | delivered f =>
      cases hanswered : (port.connection.deliver f).2 with
      | none => rwa [(Connection.deliver_unanswered hanswered).1]
      | some n =>
          obtain ⟨_, _, _, harmed, hafter⟩ := Connection.deliver_answers hanswered
          have hne : n ≠ waiter := by
            intro heq
            rw [heq, Connection.isArmed_iff, hframe] at harmed
            cases harmed
          rw [hafter]
          simpa [Connection.setWaiter, hne] using hframe

section

variable (mint : Nat → String) {w : World} {i : Nat}

/-- Whoever can take up a fitting frame and go on does so by its next step. -/
theorem TakesUp.resume {s : Submission} {waiter : Nat} {frame : String} {reply : Json.Members}
    (h : w.TakesUp i s waiter frame reply) (hready : i ∈ w.ready) :
    ∃ t, (w.act mint (.resume i)).submissions[i]? = some t ∧
      t.phase = .finished (.replied reply) := by
  obtain ⟨deadline, hawaits⟩ := h.awaits
  obtain ⟨port, hport, hframe⟩ := h.answered
  have hstep : w.act mint (.resume i) = w.resume mint i := if_pos hready
  rw [hstep]
  obtain ⟨c, t, port', news, hmove, hdiffers, _⟩ := resume_moved mint h.submission
  obtain rfl := hmove.connection_of_awaiting hawaits
  exact ⟨t, hdiffers.submission, hmove.takes_fitting hawaits hport hframe h.fits⟩

/-- Until then nothing takes the frame from it. -/
theorem TakesUp.act {s : Submission} {waiter : Nat} {frame : String} {reply : Json.Members}
    (h : w.TakesUp i s waiter frame reply) (hready : i ∈ w.ready) (horderly : w.Orderly)
    {action : RelayAction} (hother : action ≠ .resume i) :
    ∃ t, (w.act mint action).TakesUp i t waiter frame reply ∧ i ∈ (w.act mint action).ready := by
  obtain ⟨deadline, hawaits⟩ := h.awaits
  rcases act_cases mint w action with ⟨j, u, rfl, _, hu, hmoved⟩ | houtside
  · have hj : i ≠ j := fun heq => hother (heq ▸ rfl)
    have hexchange := exchanges_of_awaiting h.submission hawaits
    have hreply := (hasReply_congr (hmoved.connection_of_other hu horderly hexchange hj) waiter
      frame).mpr h.answered
    obtain ⟨c, t, port', news, _, hdiffers, _⟩ := hmoved
    exact ⟨s, ⟨(hdiffers.submissions i hj).trans h.submission, h.awaits, hreply, h.fits⟩,
      hdiffers.ready i hready hj⟩
  · obtain ⟨cancelled, hafter⟩ := houtside.submission i s h.submission
    exact ⟨_, ⟨hafter, h.awaits, houtside.hasReply h.answered, h.fits⟩,
      houtside.ready i hready (by simp [h.submission])⟩

theorem act_finished {s : Submission} {outcome : Outcome} (hs : w.submissions[i]? = some s)
    (hphase : s.phase = .finished outcome) (action : RelayAction) :
    ∃ t, (w.act mint action).submissions[i]? = some t ∧ t.phase = .finished outcome := by
  rcases act_cases mint w action with ⟨j, u, _, _, hu, hmoved⟩ | houtside
  · obtain ⟨c, t, port', news, hmove, hdiffers, _⟩ := hmoved
    by_cases hj : i = j
    · subst hj
      obtain rfl := Option.some.inj (hs.symm.trans hu)
      exact ⟨t, hdiffers.submission, by rw [hmove.eq_of_finished hphase, hphase]⟩
    · exact ⟨s, (hdiffers.submissions i hj).trans hs, hphase⟩
  · obtain ⟨cancelled, hafter⟩ := houtside.submission i s hs
    exact ⟨_, hafter, hphase⟩

/-- What has ended stays as it ended. -/
theorem play_finished {s : Submission} {outcome : Outcome} (hs : w.submissions[i]? = some s)
    (hphase : s.phase = .finished outcome) (rest : List RelayAction) :
    ∃ t, (w.play mint rest).submissions[i]? = some t ∧ t.phase = .finished outcome := by
  induction rest generalizing w s with
  | nil => exact ⟨s, hs, hphase⟩
  | cons action rest ih =>
      obtain ⟨t, ht, houtcome⟩ := act_finished mint hs hphase action
      exact ih ht houtcome

/-- Whatever follows, a submission that can take up a fitting frame and go on returns its object as
soon as it has taken a step, and can still do so until then. -/
theorem TakesUp.play {s : Submission} {waiter : Nat} {frame : String} {reply : Json.Members}
    (h : w.TakesUp i s waiter frame reply) (hready : i ∈ w.ready) (horderly : w.Orderly)
    (rest : List RelayAction) :
    (.resume i ∈ rest → ∃ t, (w.play mint rest).submissions[i]? = some t ∧
      t.phase = .finished (.replied reply)) ∧
    (.resume i ∉ rest → ∃ t, (w.play mint rest).TakesUp i t waiter frame reply ∧
      i ∈ (w.play mint rest).ready) := by
  induction rest generalizing w s with
  | nil => exact ⟨fun hmem => absurd hmem (by simp), fun _ => ⟨s, h, hready⟩⟩
  | cons action rest ih =>
      by_cases hstep : action = .resume i
      · subst hstep
        obtain ⟨t, ht, hphase⟩ := h.resume mint hready
        exact ⟨fun _ => play_finished mint ht hphase rest, fun hnot => absurd (by simp) hnot⟩
      · obtain ⟨t, hnext, hnextReady⟩ := h.act mint hready horderly hstep
        have hrest := ih hnext hnextReady (act_orderly mint w action horderly)
        have hmem : RelayAction.resume i ∈ action :: rest ↔ .resume i ∈ rest := by
          simp [Ne.symm hstep]
        rw [hmem]
        exact hrest

end

/-- A frame that finds no armed waiter is dropped without a trace. -/
theorem deliver_dropped {w : World} {c : Nat} {port : Port} (hport : w.ports[c]? = some port)
    (hwait : port.connection.isAwaiting = false) {frame : String}
    (hbeat : Frame.isHeartbeat frame = false) : w.deliver c frame = (w, false) := by
  have hports : w.ports.modify c (fun p => { p with connection := port.connection }) = w.ports := by
    apply List.ext_getElem?
    intro d
    rw [List.getElem?_modify]
    split
    next hd =>
      subst hd
      rw [hport]
      rfl
    next => simp
  unfold World.deliver
  rw [hport]
  dsimp only
  rw [Connection.deliver_dropped hwait hbeat]
  simp only [modifyConnection, modifyPort, hports]

/-- Whether a submission waits in time, on a connection that is open, for a frame like a given one:
an object with its id, and no heartbeat. -/
structure Expects (w : World) (i : Nat) (s : Submission) (deadline : Option Time) (waiter : Nat)
    (port : Port) (frame : String) (reply : Json.Members) : Prop where
  submission : w.submissions[i]? = some s
  awaits : s.phase = .awaiting deadline waiter
  inTime : w.isPast deadline = false
  reached : w.ports[s.connection]? = some port
  opened : port.connection.closed = false
  regular : Frame.isHeartbeat frame = false
  object : Frame.reply? frame = some reply
  labelled : ∃ id, reply.lookup ↑"taskId" = some id ∧ Json.same id s.taskId = true

theorem Expects.fits {w : World} {i : Nat} {s : Submission} {deadline : Option Time}
    {waiter : Nat} {port : Port} {frame : String} {reply : Json.Members}
    (h : w.Expects i s deadline waiter port frame reply) :
    classify s.taskId frame = .fitting reply := by
  obtain ⟨id, hid, hsame⟩ := h.labelled
  unfold classify
  rw [h.object]
  dsimp only
  rw [hid]
  cases id <;> simp [hsame]

/-- A frame for a submission that waits in time on an open connection. If the waiter is armed, the
submission returns the object of the frame as soon as it takes a step, whatever else happens. If
not, the frame is dropped without a trace: an earlier frame has answered the waiter, and the
submission has not taken its step since. It can do so, and if the earlier frame was stale it then
waits again, with its waiter armed. -/
theorem fitting_reply_returned (mint : Nat → String) (patience : Patience)
    (history : List RelayAction) {w : World} (hw : w = (fresh patience).play mint history) {i : Nat}
    {s : Submission} {deadline : Option Time} {waiter : Nat} {port : Port} {frame : String}
    {reply : Json.Members} (h : w.Expects i s deadline waiter port frame reply) :
    (port.connection.isAwaiting = true →
      (w.deliver s.connection frame).2 = true ∧ ∀ rest,
        (.resume i ∈ rest → ∃ t,
          ((w.act mint (.deliver s.connection frame)).play mint rest).submissions[i]? = some t ∧
          t.phase = .finished (.replied reply)) ∧
        (.resume i ∉ rest → ∃ t,
          ((w.act mint (.deliver s.connection frame)).play mint rest).TakesUp i t waiter frame
            reply ∧
          i ∈ ((w.act mint (.deliver s.connection frame)).play mint rest).ready)) ∧
    (port.connection.isAwaiting = false →
      w.deliver s.connection frame = (w, false) ∧ ∃ earlier,
        AnsweredIn mint (fresh patience) history s.connection earlier i waiter ∧
        w.HasReply s.connection waiter earlier ∧ i ∈ w.ready ∧
        (classify s.taskId earlier = .stale → ∃ t next after,
          (w.act mint (.resume i)).submissions[i]? = some t ∧ t.phase = .awaiting deadline next ∧
          (w.act mint (.resume i)).ports[s.connection]? = some after ∧
          after.connection.isAwaiting = true)) := by
  subst hw
  have horderly := play_orderly mint patience history
  have hexchange := exchanges_of_awaiting h.submission h.awaits
  obtain ⟨port', hport', hholds⟩ := horderly.holds hexchange
  obtain rfl := Option.some.inj (h.reached.symm.trans hport')
  constructor
  · intro harmed
    have hanswers : ((fresh patience).play mint history).Answers s.connection frame i waiter :=
      ⟨hexchange, ⟨port, h.reached, h.opened, hholds.isAwaiting_iff.mp harmed⟩, h.regular⟩
    obtain ⟨hanswered, hreply, hready⟩ := hanswers.deliver horderly h.submission h.awaits
    obtain ⟨cancelled, hafter⟩ := (outside_deliver ((fresh patience).play mint history)
      s.connection frame).submission i s h.submission
    have htakes : (((fresh patience).play mint history).act mint
        (.deliver s.connection frame)).TakesUp i { s with cancelled } waiter frame reply :=
      ⟨hafter, ⟨deadline, h.awaits⟩, hreply, h.fits⟩
    exact ⟨hanswered, htakes.play mint hready (act_orderly mint _ _ horderly)⟩
  · intro hwait
    have hdone : port.connection.isArmed waiter = false := by
      rw [Bool.eq_false_iff] at hwait ⊢
      exact fun harmed => hwait (hholds.isAwaiting_iff.mpr harmed)
    obtain ⟨earlier, hearlier⟩ := hholds.answered hdone
    have hgot : ((fresh patience).play mint history).HasReply s.connection waiter earlier :=
      ⟨port, h.reached, hearlier⟩
    have hready := play_awake mint patience history i s deadline waiter earlier h.submission
      h.awaits hgot
    refine ⟨deliver_dropped h.reached hwait h.regular, earlier,
      (record mint patience history).answered _ i waiter earlier hexchange hgot, hgot, hready,
      fun hstale => ?_⟩
    have hstep : ((fresh patience).play mint history).act mint (.resume i) =
        ((fresh patience).play mint history).resume mint i := if_pos hready
    rw [hstep]
    obtain ⟨c, t, port', news, hmove, hdiffers, _⟩ := resume_moved mint h.submission
    obtain rfl := hmove.connection_of_awaiting h.awaits
    have hidle := hholds.idle_of_answered hearlier
    obtain ⟨next, connection, hphase, hexpect, hafter⟩ :=
      hmove.takes_stale h.awaits h.reached hearlier hstale h.inTime hidle
    obtain ⟨hnext, harmed⟩ := hidle.holds_of_expect hexpect
    exact ⟨t, next, _, hdiffers.submission, hphase, hdiffers.port.trans hafter,
      hnext.isAwaiting_iff.mpr harmed⟩

/-! ## A reply right behind a stale one -/

/-- Decides whether a submission expects a frame, with a waiter that is armed or one that is not. -/
def expects (w : World) (i : Nat) (frame : String) (armed : Bool) : Bool :=
  (w.submissions[i]?).any fun s => (Frame.reply? frame).any fun reply =>
    !Frame.isHeartbeat frame && (reply.lookup ↑"taskId").any (Json.same · s.taskId) &&
      match s.phase, w.ports[s.connection]? with
      | .awaiting deadline _, some port =>
        !w.isPast deadline && !port.connection.closed && port.connection.isAwaiting == armed
      | _, _ => false

theorem of_expects {w : World} {i : Nat} {frame : String} {armed : Bool}
    (h : w.expects i frame armed = true) :
    ∃ s deadline waiter port reply, w.Expects i s deadline waiter port frame reply ∧
      port.connection.isAwaiting = armed := by
  unfold expects at h
  obtain ⟨s, hs, h⟩ := (Option.any_eq_true _ _).mp h
  obtain ⟨reply, hreply, h⟩ := (Option.any_eq_true _ _).mp h
  rw [Bool.and_eq_true, Bool.and_eq_true, Option.any_eq_true, Bool.not_eq_true'] at h
  obtain ⟨⟨hbeat, hid⟩, h⟩ := h
  split at h
  next deadline waiter port hphase hport =>
    simp only [Bool.and_eq_true, Bool.not_eq_true', beq_iff_eq] at h
    obtain ⟨⟨htime, hopen⟩, harmed⟩ := h
    exact ⟨s, deadline, waiter, port, reply,
      ⟨hs, hphase, htime, hport, hopen, hbeat, hreply, hid⟩, harmed⟩
  next => cases h

/-- A history in which a task is sent and waited for. -/
def sentOnce : List RelayAction :=
  [.connect "designer", .submit [("ops", .list []), ("taskId", .text "new")], .resume 0]

/-- A reply to the task of that history, and one to another task. -/
def newReply : String := "\x7b\"ok\": true, \"taskId\": \"new\"\x7d"

@[inherit_doc newReply]
def oldReply : String := "\x7b\"ok\": true, \"taskId\": \"old\"\x7d"

/-- A reply that comes in alone is returned. -/
theorem fitting_reply_returned_alone :
    ∃ (s t : Submission) (reply : Json.Members),
      ((((fresh (.lasting 10)).play (fun _ => "") sentOnce).act (fun _ => "")
        (.deliver s.connection newReply)).play (fun _ => "") [.resume 0]).submissions[0]? = some t ∧
      t.phase = .finished (.replied reply) := by
  have hexpects : ((fresh (.lasting 10)).play (fun _ => "") sentOnce).expects 0 newReply true =
      true := by decide +kernel
  obtain ⟨s, deadline, waiter, port, reply, h, harmed⟩ := of_expects hexpects
  obtain ⟨_, hrest⟩ := (fitting_reply_returned (fun _ => "") (.lasting 10) _ rfl h).1 harmed
  obtain ⟨t, ht, hphase⟩ := (hrest [.resume 0]).1 (by simp)
  exact ⟨s, t, reply, ht, hphase⟩

/-- A reply right behind a stale one is lost: even when no frame has come in before but a stale one,
the submission may end in another way than with that reply. -/
theorem reply_behind_stale_lost :
    ¬ ∀ (history rest : List RelayAction) (s t : Submission) (deadline : Option Time)
      (waiter : Nat) (port : Port) (frame : String) (reply : Json.Members),
      ((fresh (.lasting 10)).play (fun _ => "") history).Expects 0 s deadline waiter port frame
        reply →
      (∀ c earlier, .deliver c earlier ∈ history → classify s.taskId earlier = .stale) →
      ((((fresh (.lasting 10)).play (fun _ => "") history).act (fun _ => "")
        (.deliver s.connection frame)).play (fun _ => "") rest).submissions[0]? = some t →
      t.isFinished = true → t.phase = .finished (.replied reply) := by
  intro hall
  have hexpects : ((fresh (.lasting 10)).play (fun _ => "") (sentOnce ++ [.deliver 0 oldReply])
      ).expects 0 newReply false = true := by decide +kernel
  obtain ⟨s, deadline, waiter, port, reply, h, _⟩ := of_expects hexpects
  have hstale : (((fresh (.lasting 10)).play (fun _ => "") (sentOnce ++ [.deliver 0 oldReply])
      ).submissions[0]?).any (fun s => s.connection == 0 &&
        (classify s.taskId oldReply).isStale) = true := by decide +kernel
  have hlost : (((((fresh (.lasting 10)).play (fun _ => "") (sentOnce ++ [.deliver 0 oldReply])
      ).act (fun _ => "") (.deliver 0 newReply)).play (fun _ => "") [.resume 0, .wait 10, .resume 0]
        ).submissions[0]?).any (fun t => t.isFinished && !t.hasReplied) = true := by decide +kernel
  rw [h.submission, Option.any_some, Bool.and_eq_true, beq_iff_eq] at hstale
  obtain ⟨hconnection, hclass⟩ := hstale
  obtain ⟨t, ht, hended⟩ := (Option.any_eq_true _ _).mp hlost
  rw [Bool.and_eq_true, Bool.not_eq_true'] at hended
  have hearlier : ∀ c earlier, RelayAction.deliver c earlier ∈ sentOnce ++ [.deliver 0 oldReply] →
      classify s.taskId earlier = .stale := by
    intro c earlier hmem
    simp only [sentOnce, List.cons_append, List.nil_append, List.mem_cons, reduceCtorEq,
      List.not_mem_nil, or_false, false_or, RelayAction.deliver.injEq] at hmem
    obtain ⟨_, rfl⟩ := hmem
    exact ReplyClass.eq_stale_of_isStale hclass
  have hreplied := hall (sentOnce ++ [.deliver 0 oldReply]) [.resume 0, .wait 10, .resume 0] s t
    deadline waiter port newReply reply h hearlier (by rw [hconnection]; exact ht) hended.1
  have hnot := hended.2
  unfold Submission.hasReplied at hnot
  rw [hreplied] at hnot
  cases hnot

end World

end DesignBridge
