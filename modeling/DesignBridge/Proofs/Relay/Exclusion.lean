import DesignBridge.Proofs.Relay.Outside

/-! # One exchange at a time

Between any two actions a port serves one exchange or none. While it serves one, its gate is taken
and its connection holds the waiter of that exchange; otherwise the gate is free and the connection
is idle. This is the invariant on which the other laws of the relay rest.
-/

namespace DesignBridge

/-- What a port serves: the exchange on a waiter, or none. -/
def Port.Serves (port : Port) : Option Nat → Prop
  | some waiter => port.gate.Taken ∧ port.connection.Holds waiter
  | none => port.gate.Free ∧ port.connection.Idle

/-- The waiter of a submission's exchange, if that is on a connection. -/
def Submission.waiterAt? (s : Submission) (c : Nat) : Option Nat :=
  if s.connection = c then s.phase.waiter? else none

theorem Submission.waiterAt?_eq_none {s : Submission} {c : Nat} (h : s.phase.waiter? = none) :
    s.waiterAt? c = none := by
  simp [waiterAt?, h]

theorem Submission.waiterAt?_of_eq {s : Submission} {c : Nat} (h : s.connection = c) :
    s.waiterAt? c = s.phase.waiter? := by
  simp [waiterAt?, h]

theorem Submission.waiterAt?_of_ne {s : Submission} {c d : Nat} (h : s.connection = c)
    (hd : d ≠ c) : s.waiterAt? d = none := by
  simp [waiterAt?, h, hd.symm]

theorem Port.Serves.eq_none {port : Port} {served : Option Nat} (h : port.Serves served)
    (hgate : ¬ port.gate.Taken) : served = none := by
  cases served with
  | none => rfl
  | some waiter => exact absurd h.1 hgate

section

variable {mint : Nat → String} {w : World} {i c : Nat} {s t : Submission} {port after : Port}
  {phase : Phase} {news : List RelayEvent}

/-- Whoever comes through the gate ends at once and leaves everything free, or has begun an
exchange. -/
theorem Entry.serves (h : Entry w i c s port phase after news) (hgate : port.gate.Taken)
    (hidle : port.connection.Idle) : after.Serves phase.waiter? := by
  cases h with
  | replaced | unmeasured | overlong | busy => exact ⟨hgate.leave, hidle⟩
  | closed _ hexpect | broken _ hexpect | late _ hexpect =>
      exact ⟨hgate.leave, (hidle.holds_of_expect hexpect).1.clear_idle⟩
  | stalled _ hexpect | sent _ hexpect => exact ⟨hgate, (hidle.holds_of_expect hexpect).1⟩

/-- What comes from outside does not change what a port serves. -/
theorem Touch.serves {action : RelayAction} (h : Touch c port action after)
    {served : Option Nat} (hserves : port.Serves served) : after.Serves served := by
  cases served with
  | none =>
      obtain ⟨hgate, hidle⟩ := hserves
      cases h with
      | untouched | linked => exact ⟨hgate, hidle⟩
      | delivered frame => exact ⟨hgate, (hidle.deliver frame).1⟩
      | closed => exact ⟨hgate, hidle.congr rfl rfl⟩
      | withdrew i => exact ⟨hgate.withdraw i, hidle⟩
  | some waiter =>
      obtain ⟨hgate, hholds⟩ := hserves
      cases h with
      | untouched | linked => exact ⟨hgate, hholds⟩
      | delivered frame => exact ⟨hgate, hholds.deliver frame⟩
      | closed => exact ⟨hgate, hholds.congr rfl rfl⟩
      | withdrew i => exact ⟨hgate.withdraw i, hholds⟩

/-- A submission is in an exchange only on the connection of its steps. -/
theorem Move.connection_eq {before then_ : Option Port}
    (h : Move mint w i c s before t then_ news) {waiter : Nat}
    (hwaiter : t.phase.waiter? = some waiter) : t.connection = c := by
  cases h with
  | rested hc => exact hc
  | entered => exact Submission.settle_connection mint w.minted c s
  | called _ hc | sent _ hc | rearmed _ hc => exact hc
  | joined =>
      rw [Submission.settle_phase] at hwaiter
      cases hwaiter
  | _ => cases hwaiter

/-- A step does not touch the exchanges on other connections. -/
theorem Move.elsewhere {before then_ : Option Port} (h : Move mint w i c s before t then_ news)
    {d : Nat} (hd : d ≠ c) : t.waiterAt? d = s.waiterAt? d := by
  cases h with
  | rested => rfl
  | abandoned hphase | alone hphase | unopened hphase =>
      rw [Submission.waiterAt?_eq_none rfl, Submission.waiterAt?_eq_none (by rw [hphase]; rfl)]
  | joined hphase =>
      rw [Submission.waiterAt?_eq_none (by rw [Submission.settle_phase]; rfl),
        Submission.waiterAt?_eq_none (by rw [hphase]; rfl)]
  | entered hphase =>
      have hbefore : s.waiterAt? d = none := Submission.waiterAt?_eq_none (by rw [hphase]; rfl)
      rw [hbefore]
      exact Submission.waiterAt?_of_ne (Submission.settle_connection mint w.minted c s) hd
  | withdrew _ hc | called _ hc | sent _ hc | rearmed _ hc | overdue _ hc | ended hc =>
      have hbefore : s.waiterAt? d = none := Submission.waiterAt?_of_ne hc hd
      rw [hbefore]
      exact Submission.waiterAt?_of_ne hc hd

/-- A step that leaves the exchange of a port as it is, and its connection too. -/
structure Bystands (c : Nat) (s t : Submission) (before then_ : Option Port) : Prop where
  waiter : t.waiterAt? c = s.waiterAt? c
  port : ∃ f : Port → Port, then_ = before.map f ∧
    ∀ port served, before = some port → (f port).connection = port.connection ∧
      (port.Serves served → (f port).Serves served)

/-- A step in which a submission begins its exchange, goes on with it or ends it: the port served
that exchange or none. The waiter of the submission has no reply yet. -/
structure Advances (c : Nat) (s t : Submission) (port after : Port) : Prop where
  serves : ∀ served, port.Serves served → (∀ n, s.waiterAt? c = some n → served = some n) →
    served = s.waiterAt? c ∧ after.Serves (t.waiterAt? c)
  unanswered : ∀ n frame, t.waiterAt? c = some n →
    after.connection.waiters[n]? ≠ some (.answered frame)

theorem Bystands.same (h : t.waiterAt? c = s.waiterAt? c) (port : Option Port) :
    Bystands c s t port port :=
  ⟨h, id, by simp, fun _ _ _ => ⟨rfl, id⟩⟩

/-- Who comes to a gate or leaves its line is a bystander. -/
theorem Bystands.gate (h : t.waiterAt? c = s.waiterAt? c) {change : Gate → Gate}
    (htaken : ∀ {gate : Gate}, gate.Taken → (change gate).Taken)
    (hfree : ∀ {gate : Gate}, gate.Free → (change gate).Free) (port : Port) :
    Bystands c s t (some port) (some { port with gate := change port.gate }) := by
  refine ⟨h, fun port => { port with gate := change port.gate }, rfl, fun port served _ => ?_⟩
  refine ⟨rfl, fun hserves => ?_⟩
  cases served with
  | none => exact ⟨hfree hserves.1, hserves.2⟩
  | some waiter => exact ⟨htaken hserves.1, hserves.2⟩

/-- Whoever comes through the gate advances: the port served nothing. -/
theorem Entry.advances {before : Port} {gate : Gate} {u : Submission}
    (h : Entry w i c u { before with gate } phase after news) (hs : s.waiterAt? c = none)
    (ht : t.waiterAt? c = phase.waiter?) (hnot : ¬ before.gate.Taken)
    (htaken : before.gate.Free → gate.Taken) : Advances c s t before after where
  serves served hserves _ := by
    obtain rfl := hserves.eq_none hnot
    rw [ht]
    exact ⟨hs.symm, h.serves (htaken hserves.1) hserves.2⟩
  unanswered n frame hn := h.unanswered (ht.symm.trans hn) frame

/-- Whoever is in an exchange advances with what it makes of that. -/
theorem Advances.of_exchange {waiter : Nat} (hs : s.waiterAt? c = some waiter)
    (hserves : port.Serves (some waiter) → after.Serves (t.waiterAt? c))
    (hwaits : ∀ n frame, t.waiterAt? c = some n →
      after.connection.waiters[n]? ≠ some (.answered frame)) : Advances c s t port after where
  serves served hport hown := by
    obtain rfl := hown waiter hs
    exact ⟨hs.symm, hserves hport⟩
  unanswered := hwaits

/-- Whoever ends its exchange leaves the port free. -/
theorem Advances.of_end {waiter : Nat} {connection : Connection}
    (hs : s.waiterAt? c = some waiter) (ht : t.waiterAt? c = none)
    (hidle : port.connection.Holds waiter → connection.Idle) :
    Advances c s t port (port.left connection) := by
  refine .of_exchange hs (fun hserves => ?_) fun n frame hn => ?_
  · rw [ht]
    exact ⟨hserves.1.leave, hidle hserves.2⟩
  · rw [ht] at hn
    cases hn

/-- What a step does to the exchange that a port serves: it goes on as before on the same
connection, or the submission itself advances. -/
theorem Move.serves {before then_ : Option Port} (h : Move mint w i c s before t then_ news) :
    Bystands c s t before then_ ∨
      ∃ port after, before = some port ∧ then_ = some after ∧ Advances c s t port after := by
  have hnone : ∀ {phase : Phase} {u : Submission}, u.phase = phase → phase.waiter? = none →
      u.waiterAt? c = none :=
    fun hphase hwaiter => Submission.waiterAt?_eq_none (hphase ▸ hwaiter)
  cases h with
  | rested => exact Or.inl (.same rfl _)
  | abandoned hphase | alone hphase | unopened hphase =>
      exact Or.inl (.same ((hnone rfl rfl).trans (hnone hphase rfl).symm) _)
  | @joined port hphase =>
      have hsettled := hnone (Submission.settle_phase mint w.minted c s) rfl
      exact Or.inl (.gate (hsettled.trans (hnone hphase rfl).symm) (Gate.Taken.join · i)
        (Gate.Free.join · i) port)
  | @withdrew port hphase =>
      exact Or.inl (.gate ((hnone rfl rfl).trans (hnone hphase rfl).symm)
        (Gate.Taken.leaveLine · i) (Gate.Free.leaveLine · i) port)
  | sent hphase hc =>
      refine Or.inl (.same ?_ _)
      simp [Submission.waiterAt?, hc, hphase, Phase.waiter?]
  | entered hphase _ _ hopen hentry =>
      refine Or.inr ⟨_, _, rfl, rfl, hentry.advances (hnone hphase rfl) ?_ ?_ ?_⟩
      · exact Submission.waiterAt?_of_eq (Submission.settle_connection mint w.minted c s)
      · exact fun htaken => by simp [htaken.not_isOpen] at hopen
      · exact fun _ => Gate.take_taken hopen
  | called hphase hc _ hturn hentry =>
      refine Or.inr ⟨_, _, rfl, rfl, hentry.advances (hnone hphase rfl) ?_ ?_ ?_⟩
      · exact Submission.waiterAt?_of_eq hc
      · exact fun htaken => htaken.not_called i hturn
      · exact fun hfree => hfree.take_drop hturn
  | @rearmed port deadline waiter next _ connection hphase hc hframe _ hexpect =>
      have hbefore := (Submission.waiterAt?_of_eq hc).trans (congrArg Phase.waiter? hphase)
      have hafter : Submission.waiterAt?
          { s with cancelled := false, phase := .awaiting deadline next } c = some next :=
        Submission.waiterAt?_of_eq hc
      refine Or.inr ⟨_, _, rfl, rfl, .of_exchange hbefore (fun hserves => ?_) fun n frame hn => ?_⟩
      · have hidle := hserves.2.idle_of_answered hframe
        rw [hafter]
        exact ⟨hserves.1, (hidle.holds_of_expect hexpect).1⟩
      · obtain rfl := Option.some.inj (hafter.symm.trans hn)
        simp [Connection.expect_armed hexpect]
  | overdue hphase hc hframe _ hexpect =>
      have hbefore := (Submission.waiterAt?_of_eq hc).trans (congrArg Phase.waiter? hphase)
      refine Or.inr ⟨_, _, rfl, rfl, .of_end hbefore (hnone rfl rfl) fun hholds => ?_⟩
      exact ((hholds.idle_of_answered hframe).holds_of_expect hexpect).1.clear_idle
  | ended hc hending =>
      have hbefore := (Submission.waiterAt?_of_eq hc).trans hending.waiter?
      exact Or.inr ⟨_, _, rfl, rfl, .of_end hbefore (hnone rfl rfl) fun hholds => hholds.clear_idle⟩

end

namespace World

/-- Whether a submission is in an exchange on a connection, with a waiter. -/
def Exchanges (w : World) (c i waiter : Nat) : Prop :=
  ∃ s, w.submissions[i]? = some s ∧ s.waiterAt? c = some waiter

theorem exchanges_iff {w : World} {i : Nat} {s : Submission} (hs : w.submissions[i]? = some s)
    (c waiter : Nat) : w.Exchanges c i waiter ↔ s.waiterAt? c = some waiter := by
  simp [Exchanges, hs]

theorem exchanges_congr {w after : World} {i : Nat}
    (h : after.submissions[i]? = w.submissions[i]?) (c waiter : Nat) :
    after.Exchanges c i waiter ↔ w.Exchanges c i waiter := by
  unfold Exchanges
  rw [h]

/-- The order at one port: which exchange it serves, by submission and waiter. -/
structure OrderlyAt (w : World) (c : Nat) (served : Option (Nat × Nat)) : Prop where
  exchange : ∀ i waiter, w.Exchanges c i waiter ↔ served = some (i, waiter)
  there : served.isSome → (w.ports[c]?).isSome
  serves : ∀ port, w.ports[c]? = some port → port.Serves (served.map Prod.snd)

/-- The order at every port. -/
def Orderly (w : World) : Prop :=
  ∀ c, ∃ served, w.OrderlyAt c served

namespace OrderlyAt

variable {w after : World} {c : Nat} {served : Option (Nat × Nat)}

/-- Order is kept when the exchanges stay and the port serves what it served. -/
theorem map (h : w.OrderlyAt c served)
    (hexchange : ∀ i waiter, after.Exchanges c i waiter ↔ w.Exchanges c i waiter)
    (f : Port → Port) (hport : after.ports[c]? = w.ports[c]?.map f)
    (hserves : ∀ port served, w.ports[c]? = some port → port.Serves served →
      (f port).Serves served) : after.OrderlyAt c served where
  exchange i waiter := (hexchange i waiter).trans (h.exchange i waiter)
  there hserved := by simpa [hport] using h.there hserved
  serves port hp := by
    rw [hport, Option.map_eq_some_iff] at hp
    obtain ⟨before, hbefore, rfl⟩ := hp
    exact hserves before _ hbefore (h.serves before hbefore)

theorem congr (h : w.OrderlyAt c served)
    (hexchange : ∀ i waiter, after.Exchanges c i waiter ↔ w.Exchanges c i waiter)
    (hport : after.ports[c]? = w.ports[c]?) : after.OrderlyAt c served :=
  h.map hexchange id (by simpa using hport) fun _ _ _ hserves => hserves

end OrderlyAt

/-! ## Steps -/

section

variable {mint : Nat → String} {w after : World} {i : Nat} {s : Submission}

/-- A step of a submission keeps order at every port. -/
theorem Moved.orderly (h : Moved mint w after i s) (hs : w.submissions[i]? = some s)
    (horderly : w.Orderly) : after.Orderly := by
  obtain ⟨c, t, port', news, hmove, hdiffers, _⟩ := h
  have hother : ∀ d j n, j ≠ i → (after.Exchanges d j n ↔ w.Exchanges d j n) :=
    fun d j n hj => exchanges_congr (hdiffers.submissions j hj) d n
  have hkept : ∀ d, t.waiterAt? d = s.waiterAt? d →
      ∀ j n, after.Exchanges d j n ↔ w.Exchanges d j n := by
    intro d hsame j n
    by_cases hj : j = i
    · subst hj
      rw [exchanges_iff hdiffers.submission, exchanges_iff hs, hsame]
    · exact hother d j n hj
  intro d
  obtain ⟨served, hd⟩ := horderly d
  by_cases hdc : d = c
  · subst hdc
    obtain ⟨hsame, f, hport, hserves⟩ | ⟨port, next, hport, hnext, hserves, _⟩ := hmove.serves
    · exact ⟨served, hd.map (hkept d hsame) f (hdiffers.port.trans hport)
        fun port served hbefore => (hserves port served hbefore).2⟩
    · -- The port served the submission's own exchange or none, so it serves no one else's now.
      have hown : ∀ n, s.waiterAt? d = some n → served = some (i, n) :=
        fun n hn => (hd.exchange i n).mp ((exchanges_iff hs d n).mpr hn)
      obtain ⟨hbefore, hafter⟩ := hserves _ (hd.serves port hport)
        fun n hn => by rw [hown n hn]; rfl
      have halone : ∀ j n, served = some (j, n) → j = i := by
        rintro j n rfl
        exact (Prod.mk.inj (Option.some.inj (hown n hbefore.symm))).1
      refine ⟨(t.waiterAt? d).map (i, ·), ?_, ?_, ?_⟩
      · intro j n
        by_cases hj : j = i
        · subst hj
          rw [exchanges_iff hdiffers.submission]
          simp
        · rw [hother d j n hj, hd.exchange]
          constructor
          · exact fun hserved => absurd (halone j n hserved) hj
          · intro hserved
            obtain ⟨m, _, heq⟩ := Option.map_eq_some_iff.mp hserved
            exact absurd (Prod.mk.inj heq).1.symm hj
      · exact fun _ => by simp [hdiffers.port, hnext]
      · intro p hp
        rw [hdiffers.port, hnext] at hp
        obtain rfl := Option.some.inj hp
        rw [Option.map_map]
        simpa [Function.comp_def] using hafter
  · exact ⟨served, hd.congr (hkept d (hmove.elsewhere hdc)) (hdiffers.ports d hdc)⟩

/-- What comes from outside begins no exchange and ends none. -/
theorem Outside.exchanges_iff {action : RelayAction} (h : Outside w action after)
    (c j n : Nat) : after.Exchanges c j n ↔ w.Exchanges c j n := by
  cases hs : w.submissions[j]? with
  | some s =>
      obtain ⟨cancelled, hafter⟩ := h.submission j s hs
      rw [World.exchanges_iff hafter, World.exchanges_iff hs]
      rfl
  | none =>
      refine ⟨?_, fun ⟨s, hs', _⟩ => by rw [hs] at hs'; cases hs'⟩
      rintro ⟨s, hafter, hwaiter⟩
      obtain ⟨body, _, rfl⟩ := h.joined j s hafter hs
      rw [Submission.waiterAt?_eq_none rfl] at hwaiter
      cases hwaiter

/-- So it keeps order as well. -/
theorem Outside.orderly {action : RelayAction} (h : Outside w action after)
    (horderly : w.Orderly) : after.Orderly := by
  intro c
  obtain ⟨served, hc⟩ := horderly c
  refine ⟨served, fun j n => (h.exchanges_iff c j n).trans (hc.exchange j n), ?_, ?_⟩
  · intro hserved
    obtain ⟨port, hport⟩ := Option.isSome_iff_exists.mp (hc.there hserved)
    obtain ⟨next, hnext, _⟩ := h.port c port hport
    simp [hnext]
  · intro next hnext
    cases hport : w.ports[c]? with
    | some port =>
        obtain ⟨next', hnext', htouch⟩ := h.port c port hport
        obtain rfl := Option.some.inj (hnext.symm.trans hnext')
        exact htouch.serves (hc.serves port hport)
    | none =>
        obtain ⟨peer, rfl⟩ := h.opened c next hnext hport
        cases served with
        | none => exact ⟨Gate.fresh_free, Connection.fresh_idle peer⟩
        | some exchange => exact absurd (hc.there rfl) (by simp [hport])

theorem act_orderly (mint : Nat → String) (w : World) (action : RelayAction) (h : w.Orderly) :
    (w.act mint action).Orderly := by
  obtain ⟨i, s, _, _, hs, hmoved⟩ | houtside := act_cases mint w action
  · exact hmoved.orderly hs h
  · exact houtside.orderly h

theorem fresh_orderly (patience : Patience) : (fresh patience).Orderly := by
  intro c
  refine ⟨none, fun i waiter => ?_, ?_, ?_⟩
  · simp [Exchanges, fresh]
  · exact Bool.noConfusion
  · intro port hport
    simp [fresh] at hport

/-- After every history each port serves one exchange or none. -/
theorem play_orderly (mint : Nat → String) (patience : Patience) (history : List RelayAction) :
    ((fresh patience).play mint history).Orderly :=
  play_induction (act_orderly mint) (fresh_orderly patience) history

/-- The connection of an exchange holds its waiter. -/
theorem Orderly.holds {c waiter : Nat} (h : w.Orderly) (hexchange : w.Exchanges c i waiter) :
    ∃ port, w.ports[c]? = some port ∧ port.connection.Holds waiter := by
  obtain ⟨served, hc⟩ := h c
  obtain rfl := (hc.exchange i waiter).mp hexchange
  obtain ⟨port, hport⟩ := Option.isSome_iff_exists.mp (hc.there rfl)
  exact ⟨port, hport, (hc.serves port hport).2⟩

/-- No two exchanges go on at once on one connection. -/
theorem Orderly.alone {c j n m : Nat} (h : w.Orderly) (hi : w.Exchanges c i n)
    (hj : w.Exchanges c j m) : i = j := by
  obtain ⟨served, hc⟩ := h c
  have hserved := ((hc.exchange i n).mp hi).symm.trans ((hc.exchange j m).mp hj)
  exact (Prod.mk.inj (Option.some.inj hserved)).1

/-- While one submission is in an exchange, steps of the others leave its connection as it is. -/
theorem Moved.connection_of_other {c j waiter : Nat} (h : Moved mint w after i s)
    (hs : w.submissions[i]? = some s) (horderly : w.Orderly) (hexchange : w.Exchanges c j waiter)
    (hj : j ≠ i) :
    (after.ports[c]?).map Port.connection = (w.ports[c]?).map Port.connection := by
  obtain ⟨d, t, port', news, hmove, hdiffers, _⟩ := h
  by_cases hc : c = d
  · subst hc
    obtain ⟨_, f, hnext, hkept⟩ | ⟨p, next, hp, hnext, hserves, _⟩ := hmove.serves
    · rw [hdiffers.port, hnext]
      cases hp : w.ports[c]? with
      | none => rfl
      | some p => exact congrArg some (hkept p none hp).1
    · -- Such a step would have found the gate taken.
      obtain ⟨served, hat⟩ := horderly c
      obtain rfl := (hat.exchange j waiter).mp hexchange
      have hown : ∀ n, s.waiterAt? c = some n → j = i := fun n hn =>
        horderly.alone hexchange ((exchanges_iff hs c n).mpr hn)
      have hserved := (hserves _ (hat.serves p hp) fun n hn => absurd (hown n hn) hj).1
      exact absurd (hown waiter hserved.symm) hj
  · rw [hdiffers.ports c hc]

end

end World

end DesignBridge
