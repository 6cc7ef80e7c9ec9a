import DesignBridge.Proofs.Relay.Move

/-! # Every step is a move

The functions of a step are followed in the order in which they call each other. Each passes on what
was changed so far, so that no function is opened twice.
-/

namespace DesignBridge.World

/-! ## Going on -/

@[simp] theorem wake_submissions (w : World) (i : Nat) :
    (w.wake i).submissions = w.submissions := by
  unfold wake
  split <;> rfl

@[simp] theorem wake_ports (w : World) (i : Nat) : (w.wake i).ports = w.ports := by
  unfold wake
  split <;> rfl

@[simp] theorem wake_events (w : World) (i : Nat) : (w.wake i).events = w.events := by
  unfold wake
  split <;> rfl

@[simp] theorem wake_now (w : World) (i : Nat) : (w.wake i).now = w.now := by
  unfold wake
  split <;> rfl

@[simp] theorem wake_patience (w : World) (i : Nat) : (w.wake i).patience = w.patience := by
  unfold wake
  split <;> rfl

@[simp] theorem wake_registry (w : World) (i : Nat) : (w.wake i).registry = w.registry := by
  unfold wake
  split <;> rfl

theorem mem_ready_wake {w : World} {i j : Nat} :
    j ∈ (w.wake i).ready ↔ j ∈ w.ready ∨ j = i := by
  unfold wake
  split
  next hmem => exact ⟨Or.inl, fun h => h.elim id fun heq => heq ▸ hmem⟩
  next => simp

@[simp] theorem wake?_submissions (w : World) (i : Option Nat) :
    (w.wake? i).submissions = w.submissions := by
  cases i <;> simp [wake?]

@[simp] theorem wake?_ports (w : World) (i : Option Nat) : (w.wake? i).ports = w.ports := by
  cases i <;> simp [wake?]

@[simp] theorem wake?_events (w : World) (i : Option Nat) : (w.wake? i).events = w.events := by
  cases i <;> simp [wake?]

@[simp] theorem wake?_now (w : World) (i : Option Nat) : (w.wake? i).now = w.now := by
  cases i <;> simp [wake?]

@[simp] theorem wake?_patience (w : World) (i : Option Nat) :
    (w.wake? i).patience = w.patience := by
  cases i <;> simp [wake?]

@[simp] theorem wake?_registry (w : World) (i : Option Nat) :
    (w.wake? i).registry = w.registry := by
  cases i <;> simp [wake?]

theorem mem_ready_wake? {w : World} {i : Option Nat} {j : Nat} :
    j ∈ (w.wake? i).ready ↔ j ∈ w.ready ∨ i = some j := by
  cases i with
  | none => simp [wake?]
  | some i => simp [wake?, mem_ready_wake, eq_comm]

/-! The registry is looked at only behind the gate. -/

theorem wake_withRegistry (w : World) (r : Registry Nat) (i : Nat) :
    { w with registry := r }.wake i = { w.wake i with registry := r } := by
  unfold wake
  dsimp only
  split <;> rfl

theorem leave_withRegistry (w : World) (r : Registry Nat) (i c : Nat) (outcome : Outcome) :
    { w with registry := r }.leave i c outcome = { w.leave i c outcome with registry := r } := by
  unfold leave
  cases w.ports[c]? with
  | none => rfl
  | some port =>
      dsimp only
      cases port.gate.leave.2 with
      | none => rfl
      | some next => exact wake_withRegistry ((w.modifyPort c _).finish i outcome) r next

/-! ## What a step changes -/

/-- A world that differs from another in one submission, one port, the events that were added and
who can go on. -/
structure Differs (w after : World) (i c : Nat) (s : Submission) (port : Option Port)
    (news : List RelayEvent) : Prop where
  submission : after.submissions[i]? = some s
  submissions : ∀ j, j ≠ i → after.submissions[j]? = w.submissions[j]?
  port : after.ports[c]? = port
  ports : ∀ d, d ≠ c → after.ports[d]? = w.ports[d]?
  events : after.events = w.events ++ news
  now : after.now = w.now
  patience : after.patience = w.patience
  ready : ∀ j ∈ w.ready, j ≠ i → j ∈ after.ready
  /-- Whoever is called in the line can go on. -/
  called : ∀ p who, after.ports[c]? = some p → (who, .called) ∈ p.gate.line →
    who ∈ after.ready ∨ ∃ q, w.ports[c]? = some q ∧ (who, .called) ∈ q.gate.line
  /-- Only losing the connection changes the registry. -/
  registry : after.registry = w.registry ∨ after.registry = (w.unregister c).1.registry ∧
    ∃ reason, .finished i (.noPeer (.lost reason)) ∈ news

namespace Differs

variable {w mid : World} {i c : Nat} {s : Submission} {port : Port} {news : List RelayEvent}

theorem start (hs : w.submissions[i]? = some s) :
    Differs w { w with ready := w.ready.erase i } i c s w.ports[c]? [] where
  submission := hs
  submissions _ _ := rfl
  port := rfl
  ports _ _ := rfl
  events := by simp
  now := rfl
  patience := rfl
  ready _ hj hne := (List.mem_erase_of_ne hne).mpr hj
  called p _ hp hcalled := Or.inr ⟨p, hp, hcalled⟩
  registry := Or.inl rfl

theorem modifySubmission {port : Option Port} (h : Differs w mid i c s port news)
    (f : Submission → Submission) : Differs w (mid.modifySubmission i f) i c (f s) port news where
  submission := by simp [World.modifySubmission, h.submission]
  submissions j hj := by
    simp [World.modifySubmission, Ne.symm hj, h.submissions j hj]
  port := h.port
  ports := h.ports
  events := h.events
  now := h.now
  patience := h.patience
  ready := h.ready
  called := h.called
  registry := h.registry

theorem wake? {port : Option Port} (h : Differs w mid i c s port news) (who : Option Nat) :
    Differs w (mid.wake? who) i c s port news where
  submission := by simpa using h.submission
  submissions := by simpa using h.submissions
  port := by simpa using h.port
  ports := by simpa using h.ports
  events := by simpa using h.events
  now := by simpa using h.now
  patience := by simpa using h.patience
  ready j hj hne := mem_ready_wake?.mpr (Or.inl (h.ready j hj hne))
  called p who hp hmem := by
    rw [wake?_ports] at hp
    exact (h.called p who hp hmem).imp_left fun hthere => mem_ready_wake?.mpr (Or.inl hthere)
  registry := by simpa using h.registry

/-- The port is changed, and whoever is called by that goes on. -/
theorem callNext (h : Differs w mid i c s (some port) news) (f : Port → Port) (next : Option Nat)
    (hcalled : ∀ who, (who, .called) ∈ (f port).gate.line →
      (who, .called) ∈ port.gate.line ∨ next = some who) :
    Differs w ((mid.modifyPort c f).wake? next) i c s (some (f port)) news where
  submission := by simpa [World.modifyPort] using h.submission
  submissions := by simpa [World.modifyPort] using h.submissions
  port := by simp [World.modifyPort, h.port]
  ports d hd := by simp [World.modifyPort, Ne.symm hd, h.ports d hd]
  events := by simpa [World.modifyPort] using h.events
  now := by simpa [World.modifyPort] using h.now
  patience := by simpa [World.modifyPort] using h.patience
  ready j hj hne := mem_ready_wake?.mpr (Or.inl (h.ready j hj hne))
  called p who hp hmem := by
    rw [wake?_ports, World.modifyPort, List.getElem?_modify_eq, h.port] at hp
    obtain rfl := Option.some.inj hp
    rw [mem_ready_wake?]
    obtain hthere | hnext := hcalled who hmem
    · exact (h.called port who h.port hthere).imp_left Or.inl
    · exact Or.inl (Or.inr hnext)
  registry := by simpa [World.modifyPort] using h.registry

theorem modifyPort (h : Differs w mid i c s (some port) news) (f : Port → Port)
    (hcalled : ∀ who, (who, .called) ∈ (f port).gate.line → (who, .called) ∈ port.gate.line :=
      by exact fun _ h => h) :
    Differs w (mid.modifyPort c f) i c s (some (f port)) news :=
  h.callNext f none fun who hmem => Or.inl (hcalled who hmem)

theorem emit {port : Option Port} (h : Differs w mid i c s port news) (event : RelayEvent) :
    Differs w (mid.emit event) i c s port (news ++ [event]) where
  submission := h.submission
  submissions := h.submissions
  port := h.port
  ports := h.ports
  events := by simp [World.emit, h.events]
  now := h.now
  patience := h.patience
  ready := h.ready
  called := h.called
  registry := h.registry.imp_right fun ⟨hgone, reason, hlost⟩ =>
    ⟨hgone, reason, List.mem_append_left _ hlost⟩

theorem finish {port : Option Port} (h : Differs w mid i c s port news) (outcome : Outcome) :
    Differs w (mid.finish i outcome) i c { s with phase := .finished outcome } port
      (news ++ [.finished i outcome]) :=
  (h.modifySubmission _).emit _

theorem leave (h : Differs w mid i c s (some port) news) (outcome : Outcome) :
    Differs w (mid.leave i c outcome) i c { s with phase := .finished outcome }
      (some (port.left port.connection)) (news ++ [.finished i outcome]) := by
  unfold World.leave
  rw [h.port]
  exact (h.finish outcome).callNext ({ · with gate := port.gate.leave.1 }) port.gate.leave.2
    fun _ hmem => Gate.mem_call hmem

theorem endExchange (h : Differs w mid i c s (some port) news) (waiter : Nat) (outcome : Outcome) :
    Differs w (mid.endExchange i c waiter outcome) i c { s with phase := .finished outcome }
      (some (port.left (port.connection.clear waiter))) (news ++ [.finished i outcome]) :=
  (h.modifyPort fun port => { port with connection := port.connection.clear waiter }).leave outcome

theorem loseConnection (h : Differs w mid i c s (some port) news)
    (hregistry : mid.registry = w.registry) (waiter : Nat) (reason : String) :
    Differs w (mid.loseConnection i c waiter reason) i c
      { s with phase := .finished (.noPeer (.lost reason)) }
      (some (port.left (port.connection.clear waiter)))
      (news ++ [.finished i (.noPeer (.lost reason))]) := by
  have hended := h.endExchange waiter (.noPeer (.lost reason))
  have hleave : (mid.unregister c).1.endExchange i c waiter (.noPeer (.lost reason)) =
      { mid.endExchange i c waiter (.noPeer (.lost reason)) with
        registry := (mid.unregister c).1.registry } :=
    leave_withRegistry (mid.modifyConnection c (·.clear waiter)) _ i c _
  have hgone : (mid.unregister c).1.registry = (w.unregister c).1.registry := by
    simp only [World.unregister, hregistry]
  unfold World.loseConnection
  rw [hleave, hgone]
  exact ⟨hended.submission, hended.submissions, hended.port, hended.ports, hended.events,
    hended.now, hended.patience, hended.ready, hended.called,
    Or.inr ⟨rfl, reason, List.mem_append_right _ (List.mem_singleton_self _)⟩⟩

theorem isPast {port : Option Port} (h : Differs w mid i c s port news)
    (deadline : Option Time) : mid.isPast deadline = w.isPast deadline := by
  simp [World.isPast, h.now]

theorem await_past (h : Differs w mid i c s (some port) news) {deadline : Option Time}
    (waiter : Nat) (hpast : w.isPast deadline = true) :
    Differs w (mid.await i c deadline waiter) i c { s with phase := .finished .timedOut }
      (some (port.left (port.connection.clear waiter))) (news ++ [.finished i .timedOut]) := by
  unfold World.await
  rw [if_pos (by rw [h.isPast, hpast])]
  exact h.endExchange waiter .timedOut

/-- Whoever begins to wait and finds the reply there goes on at once. -/
theorem await (h : Differs w mid i c s (some port) news) {deadline : Option Time}
    (waiter : Nat) (hpast : w.isPast deadline = false) :
    Differs w (mid.await i c deadline waiter) i c { s with phase := .awaiting deadline waiter }
        (some port) news ∧
      (port.connection.isArmed waiter = false → i ∈ (mid.await i c deadline waiter).ready) := by
  have hset : Differs w (mid.setPhase i (.awaiting deadline waiter)) i c
      { s with phase := .awaiting deadline waiter } (some port) news := h.modifySubmission _
  unfold World.await
  rw [if_neg (by rw [h.isPast, hpast]; simp)]
  simp only [hset.port]
  split
  next harmed => exact ⟨hset, fun hnot => by rw [hnot] at harmed; cases harmed⟩
  next => exact ⟨hset.wake? (some i), fun _ => mem_ready_wake.mpr (Or.inr rfl)⟩

/-! ## Behind the gate -/

theorem exchange (h : Differs w mid i c s (some port) []) (hregistry : mid.registry = w.registry)
    (hcurrent : w.current? = some c) :
    ∃ phase after news, Entry w i c s port phase after news ∧
      Differs w (mid.exchange i c s) i c { s with phase } (some after) news := by
  unfold World.exchange
  simp only [h.port, h.patience]
  split
  next hpatience => exact ⟨_, _, _, .overlong hcurrent hpatience, h.leave _⟩
  next =>
    cases hexpect : port.connection.expect with
    | none => exact ⟨_, _, _, .busy hcurrent hexpect, h.leave _⟩
    | some armed =>
        obtain ⟨waiter, connection⟩ := armed
        have harmed : Differs w (mid.modifyConnection c fun _ => connection) i c s
            (some { port with connection }) [] := h.modifyPort _
        simp only [h.now, World.send]
        split
        next hclosed =>
          exact ⟨_, _, _, .closed hcurrent hexpect hclosed,
            harmed.loseConnection hregistry waiter _⟩
        next hopen =>
          have hopen : connection.closed = false := Bool.eq_false_iff.mpr hopen
          split
          next hlink =>
            have hsent := harmed.emit (.sent c s.payload)
            cases hpast : w.isPast (w.patience.deadline? w.now) with
            | true =>
                exact ⟨_, _, _, .late hcurrent hexpect hopen hlink hpast,
                  hsent.await_past waiter hpast⟩
            | false =>
                exact ⟨_, _, _, .sent hcurrent hexpect hopen hlink hpast,
                  (hsent.await waiter hpast).1⟩
          next hlink =>
            exact ⟨_, _, _, .stalled hcurrent hexpect hopen hlink, harmed.modifySubmission _⟩
          next reason hlink =>
            exact ⟨_, _, _, .broken hcurrent hexpect hopen hlink,
              (harmed.emit (.sendFailed c)).loseConnection hregistry waiter reason⟩

theorem enter (h : Differs w mid i c s (some port) []) (hregistry : mid.registry = w.registry) :
    ∃ phase after news, Entry w i c s port phase after news ∧
      Differs w (mid.enter i c s) i c { s with phase } (some after) news := by
  have hcurrent : mid.current? = w.current? := congrArg Registry.current hregistry
  unfold World.enter
  rw [hcurrent]
  split
  next hreplaced => exact ⟨_, _, _, .replaced hreplaced, h.leave _⟩
  next hthere =>
    have hthere : w.current? = some c := Decidable.not_not.mp hthere
    split
    next type htype => exact ⟨_, _, _, .unmeasured hthere htype, h.leave _⟩
    next => exact h.exchange hregistry hthere

end Differs

/-! ## All steps -/

section

variable {mint : Nat → String} {w mid : World} {i c : Nat} {s : Submission}

/-- How a step of a submission is seen from outside: it is one of the moves, and whoever waits for
a reply that is there can go on. -/
def Moved (mint : Nat → String) (w after : World) (i : Nat) (s : Submission) : Prop :=
  ∃ c t port news, Move mint w i c s w.ports[c]? t port news ∧ Differs w after i c t port news ∧
    ∀ p deadline waiter frame, port = some p → t.phase = .awaiting deadline waiter →
      p.connection.waiters[waiter]? = some (.answered frame) → i ∈ after.ready

theorem rest_moved (hs : w.submissions[i]? = some s) (hphase : s.phase ≠ .fresh)
    (hrests : ∀ p, w.ports[s.connection]? = some p → s.Rests w i p) :
    Moved mint w { w with ready := w.ready.erase i } i s := by
  refine ⟨s.connection, s, _, [], .rested rfl hrests hphase, Differs.start hs, ?_⟩
  intro p deadline waiter frame hport hawaits hframe
  have hrest := hrests p hport
  simp only [Submission.Rests, hawaits] at hrest
  exact absurd hframe (hrest.1 frame)

/-- A submission whose id is settled goes to the gate of its connection. -/
theorem Differs.goToGate (h : Differs w mid i c (s.settle mint w.minted c) w.ports[c]? [])
    (hcurrent : w.current? = some c) (hregistry : mid.registry = w.registry)
    (hphase : s.phase = .fresh) (hcancelled : s.cancelled = false) :
    Moved mint w
      (match mid.ports[c]? with
        | none => mid.finish i (.noPeer .notConnected)
        | some port =>
          if port.gate.isOpen then
            (mid.modifyPort c fun port => { port with gate := port.gate.take }).enter i c
              (s.settle mint w.minted c)
          else mid.modifyPort c fun port => { port with gate := port.gate.join i }) i s := by
  rw [h.port]
  cases hport : w.ports[c]? with
  | none =>
      rw [hport] at h
      refine ⟨c, _, _, _, by rw [hport]; exact .unopened hphase hcancelled hcurrent,
        h.finish _, ?_⟩
      rintro _ _ _ _ ⟨⟩
  | some port =>
      rw [hport] at h
      dsimp only
      split
      next hopen =>
        obtain ⟨phase, after, news, hentry, hdiffers⟩ :=
          (h.modifyPort fun port => { port with gate := port.gate.take }).enter hregistry
        refine ⟨c, _, _, _, hport ▸ .entered hphase hcancelled hcurrent hopen hentry,
          hdiffers, ?_⟩
        rintro p deadline waiter frame ⟨⟩ hawaits hframe
        exact absurd hframe (hentry.unanswered (congrArg Phase.waiter? hawaits) frame)
      next hopen =>
        refine ⟨c, _, _, _, hport ▸ .joined hphase hcancelled hcurrent
          (Bool.eq_false_iff.mpr hopen), h.modifyPort _ fun _ => Gate.mem_join, ?_⟩
        intro p deadline waiter frame _ hawaits
        unfold Submission.settle at hawaits
        split at hawaits <;> cases hawaits

theorem start_moved (hs : w.submissions[i]? = some s) (hphase : s.phase = .fresh)
    (hcancelled : s.cancelled = false) :
    Moved mint w (start mint { w with ready := w.ready.erase i } i s) i s := by
  unfold start
  cases hcurrent : w.current? with
  | none =>
      have hnone : World.current? { w with ready := w.ready.erase i } = none := hcurrent
      simp only [hnone]
      refine ⟨w.ports.length, _, _, _, .alone hphase hcancelled hcurrent,
        (Differs.start hs).finish _, ?_⟩
      rintro _ _ _ _ _ ⟨⟩
  | some c =>
      have hsome : World.current? { w with ready := w.ready.erase i } = some c := hcurrent
      simp only [hsome]
      have hfirst := Differs.start (c := c) hs
      cases hid : taskId? s.body with
      | some id =>
          have hsettled : s.settle mint w.minted c =
              { s with connection := c, taskId := id, wire := s.body, phase := .queued } := by
            simp [Submission.settle, hid]
          have hgate := hfirst.modifySubmission fun _ => s.settle mint w.minted c
          have hmoved := hgate.goToGate hcurrent rfl hphase hcancelled
          rw [hsettled] at hmoved
          exact hmoved
      | none =>
          have hsettled : s.settle mint w.minted c =
              { s with
                connection := c
                taskId := .text (mint (w.minted + 1))
                wire := s.body.put "taskId" (.text (mint (w.minted + 1)))
                phase := .queued } := by
            simp [Submission.settle, hid]
          have hminted : Differs w
              { w with ready := w.ready.erase i, minted := w.minted + 1 } i c s w.ports[c]? [] :=
            ⟨hs, fun _ _ => rfl, rfl, fun _ _ => rfl, hfirst.events, rfl, rfl, hfirst.ready,
              hfirst.called, Or.inl rfl⟩
          have hgate := hminted.modifySubmission fun _ => s.settle mint w.minted c
          have hmoved := hgate.goToGate hcurrent rfl hphase hcancelled
          rw [hsettled] at hmoved
          exact hmoved

/-- Whoever comes back to the line takes its turn, withdraws or goes on waiting. -/
theorem takeTurn_moved (hs : w.submissions[i]? = some s) (hphase : s.phase = .queued) :
    Moved mint w (takeTurn { w with ready := w.ready.erase i } i s) i s := by
  have hfirst := Differs.start (c := s.connection) hs
  unfold takeTurn
  cases hport : w.ports[s.connection]? with
  | none =>
      simp only [hport]
      exact rest_moved hs (by simp [hphase]) (by simp [hport])
  | some port =>
      rw [hport] at hfirst
      simp only [hport]
      split
      next hcancelled =>
        refine ⟨s.connection, _, _, _, ?_, (hfirst.finish _).callNext
          ({ · with gate := (port.gate.leaveLine i).1 }) (port.gate.leaveLine i).2
          fun _ => Gate.mem_leaveLine, ?_⟩
        · rw [hport]
          exact .withdrew hphase rfl hcancelled
        · rintro _ _ _ _ _ ⟨⟩
      next hcancelled =>
        have hcancelled : s.cancelled = false := Bool.eq_false_iff.mpr hcancelled
        split
        next hturn =>
          obtain ⟨phase, after, news, hentry, hdiffers⟩ := (hfirst.modifyPort (fun port =>
            { port with gate := (port.gate.drop i).take }) fun _ => Gate.mem_drop).enter rfl
          refine ⟨s.connection, _, _, _, ?_, hdiffers, ?_⟩
          · rw [hport]
            exact .called hphase rfl hcancelled hturn hentry
          · rintro p deadline waiter frame ⟨⟩ hawaits hframe
            exact absurd hframe (hentry.unanswered (congrArg Phase.waiter? hawaits) frame)
        next hturn =>
          refine rest_moved hs (by simp [hphase]) fun p hp => ?_
          obtain rfl := Option.some.inj (hport.symm.trans hp)
          simp [Submission.Rests, hphase, hcancelled, hturn]

theorem finishSending_moved {deadline : Option Time} {waiter : Nat}
    (hs : w.submissions[i]? = some s) (hphase : s.phase = .sending deadline waiter) :
    Moved mint w (finishSending { w with ready := w.ready.erase i } i s deadline waiter) i s := by
  have hfirst := Differs.start (c := s.connection) hs
  unfold finishSending
  cases hport : w.ports[s.connection]? with
  | none =>
      simp only [hport]
      exact rest_moved hs (by simp [hphase]) (by simp [hport])
  | some port =>
      rw [hport] at hfirst
      simp only [hport]
      split
      next hcancelled =>
        refine ⟨s.connection, _, _, _, ?_, hfirst.endExchange _ _, ?_⟩
        · rw [hport]
          exact .ended rfl (.interrupted hphase hcancelled)
        · rintro _ _ _ _ _ ⟨⟩
      next hcancelled =>
        have hcancelled : s.cancelled = false := Bool.eq_false_iff.mpr hcancelled
        split
        next hlink =>
          have hsent := hfirst.emit (.sent s.connection s.payload)
          cases hpast : w.isPast deadline with
          | true =>
              refine ⟨s.connection, _, _, _, ?_, hsent.await_past waiter hpast, ?_⟩
              · rw [hport]
                exact .ended rfl (.late hphase hcancelled hlink hpast)
              · rintro _ _ _ _ _ ⟨⟩
          | false =>
              obtain ⟨hdiffers, hready⟩ := hsent.await waiter hpast
              refine ⟨s.connection, _, _, _, ?_, hdiffers, ?_⟩
              · rw [hport]
                exact .sent hphase rfl hcancelled hlink hpast
              · rintro p _ _ frame ⟨⟩ ⟨⟩ hframe
                exact hready (by simp [Connection.isArmed, hframe])
        next hlink =>
          refine rest_moved hs (by simp [hphase]) fun p hp => ?_
          obtain rfl := Option.some.inj (hport.symm.trans hp)
          simp [Submission.Rests, hphase, hcancelled, hlink]
        next reason hlink =>
          refine ⟨s.connection, _, _, _, ?_,
            (hfirst.emit (.sendFailed s.connection)).loseConnection rfl waiter reason, ?_⟩
          · rw [hport]
            exact .ended rfl (.broken hphase hcancelled hlink)
          · rintro _ _ _ _ _ ⟨⟩

/-- Whoever has a reply ends with it, or drops it and waits for the next. -/
theorem takeReply_moved {deadline : Option Time} {waiter : Nat} {port : Port} {frame : String}
    (hs : w.submissions[i]? = some s) (hphase : s.phase = .awaiting deadline waiter)
    (hport : w.ports[s.connection]? = some port)
    (hframe : port.connection.waiters[waiter]? = some (.answered frame)) :
    Moved mint w (takeReply { w with ready := w.ready.erase i } i s deadline waiter frame) i s := by
  have hfirst := Differs.start (c := s.connection) hs
  rw [hport] at hfirst
  unfold takeReply
  cases hreply : classify s.taskId frame with
  | invalid =>
      refine ⟨s.connection, _, _, _, ?_, hfirst.endExchange _ _, ?_⟩
      · rw [hport]
        exact .ended rfl (.invalid hphase hframe hreply)
      · rintro _ _ _ _ _ ⟨⟩
  | fitting reply =>
      refine ⟨s.connection, _, _, _, ?_, hfirst.endExchange _ _, ?_⟩
      · rw [hport]
        exact .ended rfl (.replied hphase hframe hreply)
      · rintro _ _ _ _ _ ⟨⟩
  | stale =>
      simp only [hport]
      cases hexpect : port.connection.expect with
      | none =>
          refine ⟨s.connection, _, _, _, ?_, hfirst.endExchange _ _, ?_⟩
          · rw [hport]
            exact .ended rfl (.busy hphase hframe hreply hexpect)
          · rintro _ _ _ _ _ ⟨⟩
      | some armed =>
          obtain ⟨next, connection⟩ := armed
          have harmed := (hfirst.modifySubmission ({ · with cancelled := false })).modifyPort
            fun port => { port with connection }
          cases hpast : w.isPast deadline with
          | true =>
              refine ⟨s.connection, _, _, _, ?_, harmed.await_past next hpast, ?_⟩
              · rw [hport]
                exact .overdue hphase rfl hframe hreply hexpect hpast
              · rintro _ _ _ _ _ ⟨⟩
          | false =>
              refine ⟨s.connection, _, _, _, ?_, (harmed.await next hpast).1, ?_⟩
              · rw [hport]
                exact .rearmed hphase rfl hframe hreply hexpect hpast
              · rintro p _ _ frame ⟨⟩ ⟨⟩ hframe
                simp [Connection.expect_armed hexpect] at hframe

theorem endWait_moved {deadline : Option Time} {waiter : Nat} (hs : w.submissions[i]? = some s)
    (hphase : s.phase = .awaiting deadline waiter) :
    Moved mint w (endWait { w with ready := w.ready.erase i } i s deadline waiter) i s := by
  have hfirst := Differs.start (c := s.connection) hs
  unfold endWait
  cases hport : w.ports[s.connection]? with
  | none =>
      simp only [hport]
      exact rest_moved hs (by simp [hphase]) (by simp [hport])
  | some port =>
      simp only [hport]
      split
      next frame hframe => exact takeReply_moved hs hphase hport hframe
      next hwait =>
        rw [hport] at hfirst
        split
        next hcancelled =>
          refine ⟨s.connection, _, _, _, ?_, hfirst.endExchange _ _, ?_⟩
          · rw [hport]
            exact .ended rfl (.cancelled hphase hwait hcancelled)
          · rintro _ _ _ _ _ ⟨⟩
        next hcancelled =>
          have hcancelled : s.cancelled = false := Bool.eq_false_iff.mpr hcancelled
          split
          next hpast =>
            refine ⟨s.connection, _, _, _, ?_, hfirst.endExchange _ _, ?_⟩
            · rw [hport]
              exact .ended rfl (.timedOut hphase hwait hcancelled hpast)
            · rintro _ _ _ _ _ ⟨⟩
          next hpast =>
            refine rest_moved hs (by simp [hphase]) fun p hp => ?_
            obtain rfl := Option.some.inj (hport.symm.trans hp)
            simp only [Submission.Rests, hphase]
            exact ⟨hwait, hcancelled, Bool.eq_false_iff.mpr hpast⟩

/-- Every step of a submission is a move. -/
theorem resume_moved (mint : Nat → String) (hs : w.submissions[i]? = some s) :
    Moved mint w (w.resume mint i) i s := by
  unfold resume
  simp only [hs]
  cases hphase : s.phase with
  | fresh =>
      dsimp only
      split
      next hcancelled =>
        refine ⟨w.ports.length, _, _, _, .abandoned hphase hcancelled,
          (Differs.start hs).finish _, ?_⟩
        rintro _ _ _ _ _ ⟨⟩
      next hcancelled => exact start_moved hs hphase (Bool.eq_false_iff.mpr hcancelled)
  | queued => exact takeTurn_moved hs hphase
  | sending deadline waiter => exact finishSending_moved hs hphase
  | awaiting deadline waiter => exact endWait_moved hs hphase
  | finished outcome =>
      exact rest_moved hs (by simp [hphase]) fun p _ => by simp [Submission.Rests, hphase]

end

end DesignBridge.World
