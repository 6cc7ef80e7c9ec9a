import DesignBridge.Proofs.Relay.Correlation
import DesignBridge.Proofs.Relay.Exchange

/-! # What is handed to a link

A submission hands its task to the link of its connection in the step in which it passes the gate,
and only if the connection is current and open then. What it hands over is its own task.
-/

namespace DesignBridge

/-- Whether a submission has not taken its first step. -/
def Submission.isFresh (s : Submission) : Bool :=
  match s.phase with
  | .fresh => true
  | _ => false

/-- Whether a submission is through the gate or has ended. -/
def Submission.HasPassed (s : Submission) : Prop :=
  s.phase ≠ .fresh ∧ s.phase ≠ .queued

/-- Whether what a submission sends is its own body, with an id where that has none that counts. -/
def Submission.IsOwn (s : Submission) : Prop :=
  s.wire = match taskId? s.body with
    | some _ => s.body
    | none => s.body.put "taskId" s.taskId

theorem Submission.settle_isOwn (mint : Nat → String) (minted c : Nat) (s : Submission) :
    (s.settle mint minted c).IsOwn := by
  unfold settle IsOwn
  cases hid : taskId? s.body <;> simp [hid]

/-- Whether an event comes of a task that was handed to the link of a connection. -/
def RelayEvent.isSending (c : Nat) : RelayEvent → Bool
  | .sent d _ | .sendFailed d => d == c
  | _ => false

/-- A task that was handed to the link of a connection. -/
structure Handing where
  submission : Nat
  connection : Nat
  payload : String

/-- Whether an event comes of a certain task. Who refuses a task does not show what it was. -/
def RelayEvent.ComesOf (x : Handing) : RelayEvent → Prop
  | .sent c payload => x.connection = c ∧ x.payload = payload
  | .sendFailed c => x.connection = c
  | _ => False

theorem RelayEvent.ComesOf.isSending {x : Handing} {event : RelayEvent} (h : event.ComesOf x) :
    event.isSending x.connection = true := by
  cases event with
  | sent => exact beq_iff_eq.mpr h.1.symm
  | sendFailed => exact beq_iff_eq.mpr h.symm
  | closed | finished => cases h

theorem RelayEvent.ComesOf.congr {x y : Handing} {event : RelayEvent} (h : event.ComesOf x)
    (hconnection : y.connection = x.connection) (hpayload : y.payload = x.payload) :
    event.ComesOf y := by
  cases event with
  | sent => exact ⟨hconnection.trans h.1, hpayload.trans h.2⟩
  | sendFailed => exact hconnection.trans h
  | closed | finished => cases h

namespace World

/-- The task that an action hands to a link: that of a submission which was in no exchange before
and now is, or had its task sent or refused on the spot. -/
def handed? (mint : Nat → String) (w : World) : RelayAction → Option Handing
  | .resume i =>
    let after := w.act mint (.resume i)
    match w.submissions[i]?, after.submissions[i]? with
    | some s, some t =>
      if s.phase.waiter?.isNone && (t.phase.waiter?.isSome ||
          (after.events.drop w.events.length).any (·.isSending t.connection)) then
        some ⟨i, t.connection, t.payload⟩
      else none
    | _, _ => none
  | _ => none

/-- All tasks that were handed to links in a history, in order. -/
def handings (mint : Nat → String) (w : World) : List RelayAction → List Handing
  | [] => []
  | action :: rest =>
    (w.handed? mint action).toList ++ handings mint (w.act mint action) rest

/-- The submission that takes its first step by an action. -/
def begins? (w : World) : RelayAction → Option Nat
  | .resume i =>
    if i ∈ w.ready ∧ (w.submissions[i]?).any Submission.isFresh then some i else none
  | _ => none

/-- The submissions that began in a history, in order. -/
def begun (mint : Nat → String) (w : World) : List RelayAction → List Nat
  | [] => []
  | action :: rest => (w.begins? action).toList ++ begun mint (w.act mint action) rest

theorem handings_append (mint : Nat → String) (w : World) (history rest : List RelayAction) :
    w.handings mint (history ++ rest) =
      w.handings mint history ++ (w.play mint history).handings mint rest := by
  induction history generalizing w with
  | nil => rfl
  | cons first more ih => simp [handings, ih]

theorem handings_snoc (mint : Nat → String) (w : World) (history : List RelayAction)
    (action : RelayAction) :
    w.handings mint (history ++ [action]) =
      w.handings mint history ++ ((w.play mint history).handed? mint action).toList := by
  rw [handings_append]
  simp [handings]

theorem begun_snoc (mint : Nat → String) (w : World) (history : List RelayAction)
    (action : RelayAction) :
    w.begun mint (history ++ [action]) =
      w.begun mint history ++ ((w.play mint history).begins? action).toList := by
  induction history generalizing w with
  | nil => simp [begun]
  | cons first rest ih => simp [begun, ih]

end World

/-! ## Steps -/

section

variable {mint : Nat → String} {w : World} {i c : Nat} {s t : Submission} {port after : Port}
  {before then_ : Option Port} {phase : Phase} {outcome : Outcome} {news : List RelayEvent}
  {event : RelayEvent} {d : Nat}

theorem Entry.hasPassed (h : Entry w i c s port phase after news) :
    phase ≠ .fresh ∧ phase ≠ .queued := by
  cases h <;> simp

/-- Whoever hands its task over behind the gate has found the connection current and open. -/
theorem Entry.handed (h : Entry w i c s port phase after news)
    (hhanded : phase.waiter?.isSome = true ∨ news.any (·.isSending c) = true) :
    w.current? = some c ∧ port.connection.closed = false := by
  cases h with
  | replaced | unmeasured | overlong | busy | closed =>
      simp [Phase.waiter?, RelayEvent.isSending] at hhanded
  | stalled hcurrent hexpect hopen | sent hcurrent hexpect hopen | broken hcurrent hexpect hopen
  | late hcurrent hexpect hopen =>
      exact ⟨hcurrent, (Connection.expect_closed hexpect).symm.trans hopen⟩

/-- Whoever finds its connection replaced or closed behind the gate ends, and hands nothing over. -/
theorem Entry.refused (h : Entry w i c s port phase after news) (hidle : port.connection.Idle)
    (hrefused : w.current? ≠ some c ∨ port.connection.closed = true) :
    ∃ outcome, phase = .finished outcome ∧ ((∃ reason, outcome = .noPeer reason) ∨
      w.current? = some c ∧ ((∃ type, (s.wire.lookup ↑"ops").bind unmeasuredType? = some type ∧
        outcome = .unmeasured type) ∨ w.patience = .overlong ∧ outcome = .overlong)) := by
  cases h with
  | replaced => exact ⟨_, rfl, Or.inl ⟨_, rfl⟩⟩
  | unmeasured hcurrent htype => exact ⟨_, rfl, Or.inr ⟨hcurrent, Or.inl ⟨_, htype, rfl⟩⟩⟩
  | overlong hcurrent hpatience => exact ⟨_, rfl, Or.inr ⟨hcurrent, Or.inr ⟨hpatience, rfl⟩⟩⟩
  | busy _ hexpect =>
      rw [hidle.expect] at hexpect
      cases hexpect
  | closed => exact ⟨_, rfl, Or.inl ⟨_, rfl⟩⟩
  | stalled hcurrent hexpect hopen | sent hcurrent hexpect hopen | broken hcurrent hexpect hopen
  | late hcurrent hexpect hopen =>
      rw [← Connection.expect_closed hexpect, hopen] at hrefused
      exact absurd hcurrent (hrefused.resolve_right Bool.false_ne_true)

/-- Nothing else keeps a task back behind the gate. -/
theorem Entry.goes (h : Entry w i c s port phase after news) (hidle : port.connection.Idle)
    (hcurrent : w.current? = some c) (hopen : port.connection.closed = false)
    (hmeasured : (s.wire.lookup ↑"ops").bind unmeasuredType? = none)
    (hpatience : w.patience ≠ .overlong) :
    phase.waiter?.isSome = true ∨ news.any (·.isSending c) = true := by
  cases h with
  | replaced hreplaced => exact absurd hcurrent hreplaced
  | unmeasured _ htype => exact absurd hmeasured (by simp [htype])
  | overlong _ hoverlong => exact absurd hoverlong hpatience
  | busy _ hexpect => exact absurd hidle.expect (by simp [hexpect])
  | closed _ hexpect hclosed =>
      rw [Connection.expect_closed hexpect, hopen] at hclosed
      cases hclosed
  | stalled | sent => exact Or.inl rfl
  | broken | late => exact Or.inr (by simp [RelayEvent.isSending])

theorem Entry.comesOf (h : Entry w i c s port phase after news) (hevent : event ∈ news)
    (hsending : event.isSending d = true) : event.ComesOf ⟨i, c, s.payload⟩ := by
  cases h with
  | late | broken =>
      obtain rfl | rfl : event = _ ∨ event = _ := by simpa using hevent
      · simp [RelayEvent.ComesOf]
      · cases hsending
  | sent =>
      obtain rfl := List.mem_singleton.mp hevent
      exact ⟨rfl, rfl⟩
  | stalled => cases hevent
  | replaced | unmeasured | overlong | busy | closed =>
      obtain rfl := List.mem_singleton.mp hevent
      cases hsending

theorem Ending.comesOf {waiter : Nat} (h : Ending w s port waiter outcome news)
    (hevent : event ∈ news) : event.ComesOf ⟨i, s.connection, s.payload⟩ := by
  cases h with
  | late =>
      obtain rfl := List.mem_singleton.mp hevent
      exact ⟨rfl, rfl⟩
  | broken =>
      obtain rfl := List.mem_singleton.mp hevent
      exact rfl
  | _ => cases hevent

/-- What a step sends is the task of its submission. -/
theorem Move.comesOf (h : Move mint w i c s before t then_ news) (hevent : event ∈ news)
    (hsending : event.isSending d = true) : event.ComesOf ⟨i, t.connection, t.payload⟩ := by
  cases h with
  | rested | joined | rearmed => cases hevent
  | abandoned | alone | unopened | withdrew | overdue =>
      obtain rfl := List.mem_singleton.mp hevent
      cases hsending
  | entered _ _ _ _ hentry =>
      have hc : (s.settle mint w.minted c).connection = c := Submission.settle_connection ..
      exact (hentry.comesOf hevent hsending).congr hc rfl
  | called _ hc _ _ hentry => exact hc ▸ hentry.comesOf hevent hsending
  | sent _ hc =>
      obtain rfl := List.mem_singleton.mp hevent
      exact ⟨hc, rfl⟩
  | ended hc hending =>
      obtain hbefore | hlast := List.mem_append.mp hevent
      · exact hending.comesOf hbefore
      · obtain rfl := List.mem_singleton.mp hlast
        cases hsending

/-- A step that hands a task over takes a submission through the gate. -/
theorem Move.hands (h : Move mint w i c s before t then_ news) (hbefore : s.phase.waiter? = none)
    (hafter : t.phase.waiter?.isSome = true ∨ news.any (·.isSending t.connection) = true)
    (hown : s.phase = .queued → s.IsOwn) :
    ∃ port, before = some port ∧ t.connection = c ∧ t.HasPassed ∧ t.IsOwn ∧ s.cancelled = false ∧
      w.current? = some c ∧ port.connection.closed = false ∧
      (s.phase = .fresh ∧ w.current? = some c ∧ port.gate.isOpen = true ∨
        s.phase = .queued ∧ s.connection = c ∧ port.gate.turn? i = some .called) := by
  cases h with
  | rested => simp [hbefore] at hafter
  | abandoned | alone | unopened | withdrew => simp [Phase.waiter?, RelayEvent.isSending] at hafter
  | joined => simp [Submission.settle_phase, Phase.waiter?] at hafter
  | entered hphase hcancelled hcurrent hopen hentry =>
      have hc : (s.settle mint w.minted c).connection = c := Submission.settle_connection ..
      rw [hc] at hafter
      exact ⟨_, rfl, hc, hentry.hasPassed, Submission.settle_isOwn mint w.minted c s, hcancelled,
        hcurrent, (hentry.handed hafter).2, Or.inl ⟨hphase, hcurrent, hopen⟩⟩
  | called hphase hc hcancelled hturn hentry =>
      rw [hc] at hafter
      obtain ⟨hcurrent, hopen⟩ := hentry.handed hafter
      exact ⟨_, rfl, hc, hentry.hasPassed, hown hphase, hcancelled, hcurrent, hopen,
        Or.inr ⟨hphase, hc, hturn⟩⟩
  | sent hphase | rearmed hphase | overdue hphase => simp [hphase, Phase.waiter?] at hbefore
  | ended _ hending => simp [hending.waiter?] at hbefore

/-- Whoever starts at an open gate goes through it, with its id and its wire form settled. -/
theorem Move.starts (h : Move mint w i d s w.ports[d]? t then_ news)
    (hport : w.ports[c]? = some port) (hcancelled : s.cancelled = false) (hfresh : s.phase = .fresh)
    (hcurrent : w.current? = some c) (hopen : port.gate.isOpen = true) :
    d = c ∧ ∃ phase after, t = { s.settle mint w.minted c with phase } ∧ then_ = some after ∧
      Entry w i c (s.settle mint w.minted c) { port with gate := port.gate.take } phase after
        news := by
  generalize hbefore : w.ports[d]? = before at h
  cases h with
  | rested _ _ hphase => exact absurd hfresh hphase
  | abandoned _ hcancelled' => exact absurd hcancelled' (by simp [hcancelled])
  | alone _ _ hnone => exact absurd hnone (by simp [hcurrent])
  | unopened _ _ hcurrent' =>
      obtain rfl := Option.some.inj (hcurrent.symm.trans hcurrent')
      exact absurd hbefore (by simp [hport])
  | joined _ _ hcurrent' hshut =>
      obtain rfl := Option.some.inj (hcurrent.symm.trans hcurrent')
      obtain rfl := Option.some.inj (hport.symm.trans hbefore)
      exact absurd hshut (by simp [hopen])
  | entered _ _ hcurrent' _ hentry =>
      obtain rfl := Option.some.inj (hcurrent.symm.trans hcurrent')
      obtain rfl := Option.some.inj (hport.symm.trans hbefore)
      exact ⟨rfl, _, _, rfl, rfl, hentry⟩
  | withdrew hphase | called hphase | sent hphase | rearmed hphase | overdue hphase =>
      exact absurd hphase (by simp [hfresh])
  | ended _ hending => exact absurd hending.waiter? (by simp [hfresh, Phase.waiter?])

/-- Whoever has its turn on a connection goes through the gate there. -/
theorem Move.enters (h : Move mint w i d s w.ports[d]? t then_ news)
    (hport : w.ports[c]? = some port) (hcancelled : s.cancelled = false)
    (hturn : s.phase = .fresh ∧ w.current? = some c ∧ port.gate.isOpen = true ∨
      s.phase = .queued ∧ s.connection = c ∧ port.gate.turn? i = some .called) :
    d = c ∧ t.connection = c ∧ ∃ u gate next, t.wire = u.wire ∧
      Entry w i c u { port with gate } t.phase next news := by
  obtain ⟨hfresh, hcurrent, hopen⟩ | ⟨hqueued, hc, hcalled⟩ := hturn
  · obtain ⟨rfl, phase, after, rfl, _, hentry⟩ :=
      h.starts hport hcancelled hfresh hcurrent hopen
    exact ⟨rfl, Submission.settle_connection .., s.settle mint w.minted d, _, _, rfl, hentry⟩
  · generalize hbefore : w.ports[d]? = before at h
    cases h with
    | rested hc' hrests =>
        obtain rfl := hc'.symm.trans hc
        have hrest := hrests port (hbefore.symm.trans hport)
        simp only [Submission.Rests, hqueued] at hrest
        exact absurd hcalled hrest.2
    | abandoned hphase | alone hphase | unopened hphase | joined hphase | entered hphase
    | sent hphase | rearmed hphase | overdue hphase => exact absurd hphase (by simp [hqueued])
    | withdrew _ _ hcancelled' => exact absurd hcancelled' (by simp [hcancelled])
    | called _ hc' _ _ hentry =>
        obtain rfl := hc'.symm.trans hc
        obtain rfl := Option.some.inj (hport.symm.trans hbefore)
        exact ⟨rfl, hc', s, _, _, rfl, hentry⟩
    | ended _ hending => exact absurd hending.waiter? (by simp [hqueued, Phase.waiter?])

/-- Whoever has passed keeps its connection and what it sends. -/
theorem Move.passed (h : Move mint w i c s before t then_ news) (hs : s.HasPassed) :
    t.HasPassed ∧ t.connection = s.connection ∧ t.wire = s.wire ∧ (s.IsOwn → t.IsOwn) := by
  cases h with
  | rested => exact ⟨hs, rfl, rfl, id⟩
  | abandoned hphase | alone hphase | unopened hphase | joined hphase | entered hphase =>
      exact absurd hphase hs.1
  | withdrew hphase | called hphase => exact absurd hphase hs.2
  | sent | rearmed | overdue | ended => exact ⟨⟨by simp, by simp⟩, rfl, rfl, id⟩

/-- Whoever comes to stand in line has settled what it sends. -/
theorem Move.own (h : Move mint w i c s before t then_ news) (hown : s.phase = .queued → s.IsOwn)
    (hphase : t.phase = .queued) : t.IsOwn := by
  cases h with
  | rested => exact hown hphase
  | joined => exact Submission.settle_isOwn mint w.minted c s
  | entered _ _ _ _ hentry | called _ _ _ _ hentry => exact absurd hphase hentry.hasPassed.2
  | abandoned | alone | unopened | withdrew | sent | rearmed | overdue | ended => cases hphase

/-- Nobody is fresh after a step. -/
theorem Move.begun (h : Move mint w i c s before t then_ news) : t.phase ≠ .fresh := by
  cases h with
  | rested _ _ hphase => exact hphase
  | joined => simp [Submission.settle_phase]
  | entered _ _ _ _ hentry | called _ _ _ _ hentry => exact hentry.hasPassed.1
  | abandoned | alone | unopened | withdrew | sent | rearmed | overdue | ended => simp

end

namespace World

/-- Whether every submission in line has settled what it sends. -/
def Own (w : World) : Prop :=
  ∀ (i : Nat) (s : Submission), w.submissions[i]? = some s → s.phase = .queued → s.IsOwn

section

variable {mint : Nat → String} {w : World} {action : RelayAction} {x : Handing} {i c : Nat}

theorem act_own (h : w.Own) : (w.act mint action).Own := by
  intro j t ht hphase
  obtain ⟨i, s, _, _, hs, hmoved⟩ | houtside := act_cases mint w action
  · obtain ⟨_, _, _, _, hmove, hdiffers, _⟩ := hmoved
    by_cases hj : j = i
    · subst hj
      obtain rfl := Option.some.inj (hdiffers.submission.symm.trans ht)
      exact hmove.own (h j s hs) hphase
    · rw [hdiffers.submissions j hj] at ht
      exact h j t ht hphase
  · cases hs : w.submissions[j]? with
    | some s =>
        obtain ⟨cancelled, hafter⟩ := houtside.submission j s hs
        obtain rfl := Option.some.inj (ht.symm.trans hafter)
        exact h j s hs hphase
    | none =>
        obtain ⟨body, _, rfl⟩ := houtside.joined j t ht hs
        cases hphase

/-- A submission that has passed keeps its connection and what it sends ever after. -/
theorem act_passed (mint : Nat → String) {s : Submission} (hs : w.submissions[i]? = some s)
    (hpassed : s.HasPassed) (action : RelayAction) :
    ∃ t, (w.act mint action).submissions[i]? = some t ∧ t.HasPassed ∧
      t.connection = s.connection ∧ t.wire = s.wire ∧ (s.IsOwn → t.IsOwn) := by
  obtain ⟨j, u, _, _, hu, hmoved⟩ | houtside := act_cases mint w action
  · obtain ⟨_, t, _, _, hmove, hdiffers, _⟩ := hmoved
    by_cases hj : i = j
    · subst hj
      obtain rfl := Option.some.inj (hs.symm.trans hu)
      exact ⟨t, hdiffers.submission, hmove.passed hpassed⟩
    · exact ⟨s, (hdiffers.submissions i hj).trans hs, hpassed, rfl, rfl, id⟩
  · obtain ⟨cancelled, hafter⟩ := houtside.submission i s hs
    exact ⟨_, hafter, hpassed, rfl, rfl, id⟩

/-- What is handed to a link by an action. -/
structure Hands (mint : Nat → String) (w : World) (action : RelayAction) (x : Handing) :
    Prop where
  step : action = .resume x.submission ∧ x.submission ∈ w.ready
  turn : w.HasTurn x.connection x.submission
  current : w.current? = some x.connection
  opened : ∃ port, w.ports[x.connection]? = some port ∧ port.connection.closed = false
  passed : ∃ t, (w.act mint action).submissions[x.submission]? = some t ∧ t.HasPassed ∧
    t.connection = x.connection ∧ t.payload = x.payload ∧ t.IsOwn

/-- A submission that was in no exchange hands its task over by going into one, or by what is seen
of it on the link. -/
theorem handed?_eq_some {s t : Submission} (hs : w.submissions[i]? = some s)
    (ht : (w.act mint (.resume i)).submissions[i]? = some t)
    (hbefore : s.phase.waiter?.isSome = false)
    (hafter : t.phase.waiter?.isSome = true ∨
      ((w.act mint (.resume i)).events.drop w.events.length).any (·.isSending t.connection) =
        true) : w.handed? mint (.resume i) = some ⟨i, t.connection, t.payload⟩ := by
  unfold handed?
  simp only [hs, ht]
  rw [if_pos]
  rw [Option.isSome_eq_false_iff] at hbefore
  rw [hbefore, Bool.true_and, Bool.or_eq_true]
  exact hafter

theorem hands_of_handed? (h : w.handed? mint action = some x) (hown : w.Own) :
    Hands mint w action x := by
  unfold handed? at h
  cases action with
  | resume i =>
      dsimp only at h
      split at h
      next s t hs ht =>
        split at h
        next hhanded =>
          obtain rfl := Option.some.inj h
          rw [Bool.and_eq_true, Bool.or_eq_true, Option.isNone_iff_eq_none] at hhanded
          obtain ⟨hbefore, hafter⟩ := hhanded
          by_cases hready : i ∈ w.ready
          · have hact : w.act mint (.resume i) = w.resume mint i := if_pos hready
            obtain ⟨c, t', port', news, hmove, hdiffers, _⟩ := resume_moved mint hs
            rw [← hact] at hdiffers
            obtain rfl := Option.some.inj (hdiffers.submission.symm.trans ht)
            rw [hdiffers.events, List.drop_left] at hafter
            obtain ⟨port, hport, rfl, hpassed, hisOwn, hcancelled, hcurrent, hopen, hturn⟩ :=
              hmove.hands hbefore hafter (hown i s hs)
            exact ⟨⟨rfl, hready⟩, ⟨s, port, hs, hport, hcancelled, hturn⟩, hcurrent,
              ⟨port, hport, hopen⟩, ⟨t', ht, hpassed, rfl, rfl, hisOwn⟩⟩
          · -- Who cannot go on changes nothing.
            have hact : w.act mint (.resume i) = w := if_neg hready
            rw [hact, hs] at ht
            obtain rfl := Option.some.inj ht
            rw [hact, hbefore] at hafter
            simp at hafter
        next => cases h
      next => cases h
  | _ => cases h

theorem begins?_eq_some (h : w.begins? action = some i) :
    action = .resume i ∧ i ∈ w.ready ∧
      ∃ s, w.submissions[i]? = some s ∧ s.phase = .fresh := by
  unfold begins? at h
  cases action with
  | resume j =>
      dsimp only at h
      split at h
      next hbegins =>
        obtain rfl := Option.some.inj h
        obtain ⟨s, hs, hfresh⟩ := (Option.any_eq_true _ _).mp hbegins.2
        refine ⟨rfl, hbegins.1, s, hs, ?_⟩
        unfold Submission.isFresh at hfresh
        split at hfresh
        next hphase => exact hphase
        next => cases hfresh
      next => cases h
  | _ => cases h

theorem begins?_of_fresh {s : Submission} (hready : i ∈ w.ready) (hs : w.submissions[i]? = some s)
    (hphase : s.phase = .fresh) : w.begins? (.resume i) = some i := by
  simp [begins?, hready, hs, Submission.isFresh, hphase]

end

end World

end DesignBridge
