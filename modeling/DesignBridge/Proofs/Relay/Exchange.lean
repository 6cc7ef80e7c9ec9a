import DesignBridge.Proofs.Relay.Line

/-! # Exchanges keep to themselves and leave nothing behind

On each connection at most one submission is in an exchange, the gate is held for it, and whatever
waiter is armed is its own. However an exchange ends, its waiters are done, none stays registered,
and the gate is free for the next in line.
-/

namespace DesignBridge

section

variable {mint : Nat → String} {w : World} {i c : Nat} {s t : Submission} {port after : Port}
  {phase : Phase} {news : List RelayEvent}

theorem Entry.ne_busy (h : Entry w i c s port phase after news) (hidle : port.connection.Idle) :
    phase ≠ .finished .busy := by
  cases h with
  | busy _ hexpect =>
      rw [hidle.expect] at hexpect
      cases hexpect
  | _ => simp

theorem Ending.ne_busy {waiter : Nat} {outcome : Outcome}
    (h : Ending w s port waiter outcome news) (hholds : port.connection.Holds waiter) :
    outcome ≠ .busy := by
  cases h with
  | busy _ hframe _ hexpect =>
      rw [(hholds.idle_of_answered hframe).expect] at hexpect
      cases hexpect
  | _ => simp

theorem Submission.isFinished_of_waiterAt? {waiter : Nat} (h : s.waiterAt? c = some waiter) :
    s.isFinished = false := by
  unfold waiterAt? at h
  unfold isFinished
  split at h
  next =>
    cases hphase : s.phase with
    | finished => simp [hphase, Phase.waiter?] at h
    | _ => rfl
  next => cases h

end

namespace World

/-- Whether a submission goes through the gate of a connection with its next step. -/
def HasTurn (w : World) (c i : Nat) : Prop :=
  ∃ s port, w.submissions[i]? = some s ∧ w.ports[c]? = some port ∧ s.cancelled = false ∧
    (s.phase = .fresh ∧ w.current? = some c ∧ port.gate.isOpen = true ∨
      s.phase = .queued ∧ s.connection = c ∧ port.gate.turn? i = some .called)

/-- A submission has a port to itself: the gate is held, and no waiter but its own is armed or
registered. -/
structure Occupied (w : World) (c : Nat) (port : Port) (i waiter : Nat) : Prop where
  exchange : w.Exchanges c i waiter
  alone : ∀ j n, w.Exchanges c j n → j = i ∧ n = waiter
  held : port.gate.held = true
  armed : ∀ n, port.connection.isArmed n = true → n = waiter
  slot : ∀ n, port.connection.slot = some n → n = waiter ∧ port.connection.isArmed n = true

/-- No one has a port: no waiter is armed or registered, the gate is free, and whoever is first in
line was called or has withdrawn, and can go on. -/
structure Released (w : World) (c : Nat) (port : Port) : Prop where
  vacant : ∀ i waiter, ¬ w.Exchanges c i waiter
  done : ∀ n, port.connection.isArmed n = false
  slot : port.connection.slot = none
  free : port.gate.held = false
  next : ∀ place, port.gate.line.head? = some place → place.2 ≠ .waiting ∧ place.1 ∈ w.ready

section

variable {mint : Nat → String} {w after : World} {i c : Nat} {s : Submission} {port : Port}

/-- Where no exchange goes on the gate is free and the connection idle. -/
theorem Orderly.idle (h : w.Orderly) (hport : w.ports[c]? = some port)
    (hvacant : ∀ i waiter, ¬ w.Exchanges c i waiter) :
    port.gate.Free ∧ port.connection.Idle := by
  obtain ⟨served, hat⟩ := h c
  cases served with
  | some exchange =>
      obtain ⟨i, waiter⟩ := exchange
      exact absurd ((hat.exchange i waiter).mpr rfl) (hvacant i waiter)
  | none => exact hat.serves port hport

theorem Orderly.released (h : w.Orderly) (hlined : w.Lined) (hport : w.ports[c]? = some port)
    (hvacant : ∀ i waiter, ¬ w.Exchanges c i waiter) : w.Released c port := by
  obtain ⟨hgate, hidle⟩ := h.idle hport hvacant
  have hline := hlined c
  rw [gateAt_of_port hport] at hline
  refine ⟨hvacant, hidle.done, hidle.slot, hgate.open_, fun place hfirst => ?_⟩
  have hturn := hline.first hgate.open_ place hfirst
  exact ⟨hturn, hline.ready place.1 place.2 (List.mem_of_mem_head? hfirst) hturn⟩

theorem Orderly.occupied (h : w.Orderly) (hport : w.ports[c]? = some port) {waiter : Nat}
    (hexchange : w.Exchanges c i waiter) : w.Occupied c port i waiter := by
  obtain ⟨served, hat⟩ := h c
  obtain rfl := (hat.exchange i waiter).mp hexchange
  obtain ⟨hgate, hholds⟩ := hat.serves port hport
  have harmed : ∀ n, port.connection.isArmed n = true → n = waiter := fun n hn =>
    Classical.byContradiction fun hne => by
      rw [hholds.others n hne] at hn
      cases hn
  refine ⟨hexchange, fun j n hj => ?_, hgate.held, harmed, fun n hslot => ?_⟩
  · obtain ⟨rfl, rfl⟩ := Prod.mk.inj (Option.some.inj ((hat.exchange j n).mp hj))
    exact ⟨rfl, rfl⟩
  · obtain ⟨hown, hwait⟩ | ⟨hnone, _⟩ := hholds.state
    · obtain rfl := Option.some.inj (hslot.symm.trans hown)
      exact ⟨rfl, hwait⟩
    · rw [hnone] at hslot
      cases hslot

/-- Whoever has its turn finds no exchange going on. -/
theorem HasTurn.vacant (h : w.HasTurn c i) (horderly : w.Orderly) (j waiter : Nat) :
    ¬ w.Exchanges c j waiter := by
  obtain ⟨s, port, _, hport, _, hturn⟩ := h
  intro hexchange
  obtain ⟨served, hat⟩ := horderly c
  obtain rfl := (hat.exchange j waiter).mp hexchange
  have htaken := (hat.serves port hport).1
  obtain ⟨_, _, hopen⟩ | ⟨_, _, hcalled⟩ := hturn
  · rw [htaken.not_isOpen] at hopen
    cases hopen
  · exact htaken.not_called i hcalled

/-- A step never finds a reply awaited already. -/
theorem Moved.ne_busy (h : Moved mint w after i s) (hs : w.submissions[i]? = some s)
    (horderly : w.Orderly) (hbefore : s.phase ≠ .finished .busy) {t : Submission}
    (ht : after.submissions[i]? = some t) : t.phase ≠ .finished .busy := by
  obtain ⟨c, t', port', news, hmove, hdiffers, _⟩ := h
  obtain rfl := Option.some.inj (ht.symm.trans hdiffers.submission)
  generalize hport : w.ports[c]? = before at hmove
  cases hmove with
  | rested => exact hbefore
  | joined => simp [Submission.settle_phase]
  | abandoned | alone | unopened | withdrew | sent | rearmed | overdue => simp
  | entered hphase hcancelled hcurrent hopen hentry =>
      have hturn : w.HasTurn c i :=
        ⟨s, _, hs, hport, hcancelled, Or.inl ⟨hphase, hcurrent, hopen⟩⟩
      exact hentry.ne_busy (horderly.idle hport (hturn.vacant horderly)).2
  | called hphase hc hcancelled hcalled hentry =>
      have hturn : w.HasTurn c i := ⟨s, _, hs, hport, hcancelled, Or.inr ⟨hphase, hc, hcalled⟩⟩
      exact hentry.ne_busy (horderly.idle hport (hturn.vacant horderly)).2
  | ended hc hending =>
      have hwaiter := (Submission.waiterAt?_of_eq hc).trans hending.waiter?
      obtain ⟨p, hp, hholds⟩ := horderly.holds ((exchanges_iff hs c _).mpr hwaiter)
      obtain rfl := Option.some.inj (hport.symm.trans hp)
      exact fun hphase => hending.ne_busy hholds (Phase.finished.inj hphase)

/-- Whether no submission found a reply awaited already. -/
def NeverBusy (w : World) : Prop :=
  ∀ (i : Nat) (s : Submission), w.submissions[i]? = some s → s.phase ≠ .finished .busy

theorem act_neverBusy (mint : Nat → String) (w : World) (action : RelayAction)
    (horderly : w.Orderly) (h : w.NeverBusy) : (w.act mint action).NeverBusy := by
  intro i t ht
  obtain ⟨j, s, _, _, hs, hmoved⟩ | houtside := act_cases mint w action
  · by_cases hi : i = j
    · subst hi
      exact hmoved.ne_busy hs horderly (h i s hs) ht
    · obtain ⟨_, _, _, _, _, hdiffers, _⟩ := hmoved
      rw [hdiffers.submissions i hi] at ht
      exact h i t ht
  · cases hs : w.submissions[i]? with
    | some s =>
        obtain ⟨cancelled, hafter⟩ := houtside.submission i s hs
        obtain rfl := Option.some.inj (ht.symm.trans hafter)
        exact h i s hs
    | none =>
        obtain ⟨body, _, rfl⟩ := houtside.joined i t ht hs
        exact Phase.noConfusion

theorem play_neverBusy (mint : Nat → String) (patience : Patience) (history : List RelayAction) :
    ((fresh patience).play mint history).NeverBusy := by
  have hboth : ∀ (w : World) action, w.Orderly ∧ w.NeverBusy →
      (w.act mint action).Orderly ∧ (w.act mint action).NeverBusy := fun w action h =>
    ⟨act_orderly mint w action h.1, act_neverBusy mint w action h.1 h.2⟩
  have hfresh : (fresh patience).NeverBusy := fun i s hs => by simp [fresh] at hs
  exact (play_induction hboth ⟨fresh_orderly patience, hfresh⟩ history).2

/-- A port that is there stays there. -/
theorem act_ports (mint : Nat → String) (w : World) (action : RelayAction) (c : Nat)
    (h : (w.ports[c]?).isSome) : ((w.act mint action).ports[c]?).isSome := by
  obtain ⟨i, s, _, _, _, d, t, port', news, hmove, hdiffers, _⟩ | houtside :=
    act_cases mint w action
  · by_cases hc : c = d
    · subst hc
      rw [hdiffers.port, hmove.isSome_eq]
      exact h
    · rw [hdiffers.ports c hc]
      exact h
  · obtain ⟨port, hport⟩ := Option.isSome_iff_exists.mp h
    obtain ⟨next, hnext, _⟩ := houtside.port c port hport
    simp [hnext]

/-- An action by which a submission ends its exchange, or ends as soon as it has its turn, leaves no
exchange going on. -/
theorem act_vacant (mint : Nat → String) (w : World) (action : RelayAction) (horderly : w.Orderly)
    (hin : (∃ waiter, w.Exchanges c i waiter) ∨ w.HasTurn c i) {t : Submission}
    (ht : (w.act mint action).submissions[i]? = some t) (hended : t.isFinished = true)
    (j waiter : Nat) : ¬ (w.act mint action).Exchanges c j waiter := by
  have hopen : ∃ s, w.submissions[i]? = some s ∧ s.isFinished = false := by
    obtain ⟨n, s, hs, hwaiter⟩ | ⟨s, port, hs, _, _, hturn⟩ := hin
    · exact ⟨s, hs, Submission.isFinished_of_waiterAt? hwaiter⟩
    · refine ⟨s, hs, ?_⟩
      obtain ⟨hphase, _⟩ | ⟨hphase, _⟩ := hturn <;> simp [Submission.isFinished, hphase]
  obtain ⟨s, hs, hopen⟩ := hopen
  intro hexchange
  obtain ⟨k, _, _, _, _, hmoved⟩ | houtside := act_cases mint w action
  · obtain ⟨_, _, _, _, _, hdiffers, _⟩ := hmoved
    by_cases hi : i = k
    · subst hi
      by_cases hj : j = i
      · subst hj
        rw [Submission.isFinished_of_waiterAt? ((exchanges_iff ht c waiter).mp hexchange)] at hended
        cases hended
      · -- Anyone else's exchange would have been going on before.
        have hbefore := (exchanges_congr (hdiffers.submissions j hj) c waiter).mp hexchange
        obtain ⟨n, hown⟩ | hturn := hin
        · exact hj (horderly.alone hbefore hown)
        · exact hturn.vacant horderly j waiter hbefore
    · rw [hdiffers.submissions i hi, hs] at ht
      rw [← Option.some.inj ht, hopen] at hended
      cases hended
  · obtain ⟨cancelled, hafter⟩ := houtside.submission i s hs
    obtain rfl := Option.some.inj (ht.symm.trans hafter)
    have hsame : Submission.isFinished { s with cancelled } = s.isFinished := rfl
    rw [hsame, hopen] at hended
    cases hended

/-- After every history a port is occupied by one submission or released; nobody ever found a reply
awaited already; and whoever ends what it began behind the gate leaves the port released. -/
theorem exchanges_exclusive (mint : Nat → String) (patience : Patience)
    (history : List RelayAction) (action : RelayAction) :
    let w := (fresh patience).play mint history
    let after := w.act mint action
    (∀ c port, w.ports[c]? = some port →
      (∃ i waiter, w.Occupied c port i waiter) ∨ w.Released c port) ∧
    w.NeverBusy ∧
    ∀ c i t, (∃ waiter, w.Exchanges c i waiter) ∨ w.HasTurn c i →
      after.submissions[i]? = some t → t.isFinished = true →
      ∃ port, after.ports[c]? = some port ∧ after.Released c port := by
  intro w after
  have horderly : w.Orderly := play_orderly mint patience history
  have hafter : after.Orderly := act_orderly mint w action horderly
  have hlined : after.Lined := act_lined mint w action (play_lined mint patience history)
  refine ⟨fun c port hport => ?_, play_neverBusy mint patience history, ?_⟩
  · by_cases hexchange : ∃ i waiter, w.Exchanges c i waiter
    · obtain ⟨i, waiter, hexchange⟩ := hexchange
      exact Or.inl ⟨i, waiter, horderly.occupied hport hexchange⟩
    · refine Or.inr (horderly.released (play_lined mint patience history) hport ?_)
      exact fun i waiter h => hexchange ⟨i, waiter, h⟩
  · intro c i t hin ht hended
    have hthere : (w.ports[c]?).isSome := by
      obtain ⟨n, hexchange⟩ | ⟨_, port, _, hport, _⟩ := hin
      · obtain ⟨port, hport, _⟩ := horderly.holds hexchange
        simp [hport]
      · simp [hport]
    obtain ⟨port, hport⟩ := Option.isSome_iff_exists.mp (act_ports mint w action c hthere)
    have hvacant := act_vacant mint w action horderly hin ht hended
    exact ⟨port, hport, hafter.released hlined hport hvacant⟩

/-- A history in which a second task waits in line while the first one's submission is cancelled. -/
def cancelledAhead : List RelayAction :=
  [.connect "designer", .submit [("ops", .list [])], .submit [("ops", .list [])], .resume 0,
    .resume 1, .cancel 0]

/-- The step by which that submission ends hands its port on to the second. -/
theorem exchanges_exclusive_cancelled :
    ∃ port, (((fresh (.lasting 10)).play (fun _ => "") cancelledAhead).act (fun _ => "")
        (.resume 0)).ports[0]? = some port ∧
      (((fresh (.lasting 10)).play (fun _ => "") cancelledAhead).act (fun _ => "")
        (.resume 0)).Released 0 port := by
  have hbegun : (((fresh (.lasting 10)).play (fun _ => "") cancelledAhead).submissions[0]?).any
      (fun s => s.waiterAt? 0 == some 0) = true := by decide +kernel
  have hended : ((((fresh (.lasting 10)).play (fun _ => "") cancelledAhead).act (fun _ => "")
      (.resume 0)).submissions[0]?).any Submission.isFinished = true := by decide +kernel
  obtain ⟨s, hs, hwaiter⟩ := (Option.any_eq_true _ _).mp hbegun
  obtain ⟨t, ht, hfinished⟩ := (Option.any_eq_true _ _).mp hended
  exact (exchanges_exclusive (fun _ => "") (.lasting 10) cancelledAhead (.resume 0)).2.2 0 0 t
    (Or.inl ⟨0, s, hs, beq_iff_eq.mp hwaiter⟩) ht hfinished

end

end World

end DesignBridge
