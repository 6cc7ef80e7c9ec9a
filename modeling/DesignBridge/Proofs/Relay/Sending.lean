import DesignBridge.Proofs.Relay.Handing
import DesignBridge.Proofs.Relay.Standing

/-! # Tasks are sent once and in order

Every submission hands its task to a link at most once. On each connection tasks are handed over in
the order in which their submissions began: whoever has handed its task over and whoever stands in
line do so in that order.
-/

namespace DesignBridge.World

section

variable {mint : Nat → String} {w : World} {action : RelayAction} {x : Handing} {i c : Nat}

/-- Only who begins comes to stand in line. -/
theorem act_standing (mint : Nat → String) (hlined : w.Lined) (action : RelayAction) (d : Nat) :
    ((w.act mint action).gateAt d).standing.Sublist
      ((w.gateAt d).standing ++ (w.begins? action).toList) := by
  obtain ⟨i, s, rfl, hready, hs, hmoved⟩ | houtside := act_cases mint w action
  · obtain ⟨t, ht⟩ : ∃ t, (w.act mint (.resume i)).submissions[i]? = some t :=
      let ⟨_, t, _, _, _, hdiffers, _⟩ := hmoved
      ⟨t, hdiffers.submission⟩
    obtain ⟨hjoined, hphase, _⟩ | ⟨hsame, _⟩ | hleft := hmoved.standing hs ht hlined d
    · rw [hjoined, begins?_of_fresh hready hs hphase]
      exact List.Sublist.refl _
    · rw [hsame]
      exact List.sublist_append_left _ _
    · rw [hleft]
      exact List.filter_sublist.trans (List.sublist_append_left _ _)
  · exact (houtside.standing d).trans (List.sublist_append_left _ _)

/-! ## Histories -/

/-- What was handed over in a history, and what may still be: everything in the order in which the
submissions began. -/
structure Sendings (mint : Nat → String) (w : World) (history : List RelayAction) : Prop where
  past : ∀ x ∈ w.handings mint history,
    ∃ s, (w.play mint history).submissions[x.submission]? = some s ∧ s.HasPassed ∧
      s.connection = x.connection ∧ s.payload = x.payload ∧ s.IsOwn
  once : ((w.handings mint history).map Handing.submission).Nodup
  /-- Whoever is in an exchange has handed its task over. -/
  exchanging : ∀ (i : Nat) (s : Submission), (w.play mint history).submissions[i]? = some s →
    s.phase.waiter?.isSome = true → ∃ x ∈ w.handings mint history, x.submission = i
  /-- Nothing is seen on a link that was not handed to it. -/
  seen : ∀ event ∈ (w.play mint history).events, ∀ c, event.isSending c = true →
    ∃ x ∈ w.handings mint history, event.ComesOf x
  begun : ∀ i ∈ w.begun mint history,
    ∃ s, (w.play mint history).submissions[i]? = some s ∧ s.phase ≠ .fresh
  begunOnce : (w.begun mint history).Nodup
  order : ∀ c, (((w.handings mint history).filter (·.connection == c)).map Handing.submission ++
    ((w.play mint history).gateAt c).standing).Sublist (w.begun mint history)

/-- Whoever takes its first step has begun. -/
theorem begins?_begun (h : w.begins? action = some i) :
    ∃ t, (w.act mint action).submissions[i]? = some t ∧ t.phase ≠ .fresh := by
  obtain ⟨rfl, hready, s, hs, _⟩ := begins?_eq_some h
  have hact : w.act mint (.resume i) = w.resume mint i := if_pos hready
  obtain ⟨c, t, port', news, hmove, hdiffers, _⟩ := resume_moved mint hs
  exact ⟨t, by rw [hact]; exact hdiffers.submission, hmove.begun⟩

/-- Whoever has begun stays so. -/
theorem act_begun {s : Submission} (hs : w.submissions[i]? = some s) (hphase : s.phase ≠ .fresh)
    (action : RelayAction) :
    ∃ t, (w.act mint action).submissions[i]? = some t ∧ t.phase ≠ .fresh := by
  obtain ⟨j, _, _, _, _, hmoved⟩ | houtside := act_cases mint w action
  · obtain ⟨_, t, _, _, hmove, hdiffers, _⟩ := hmoved
    by_cases hj : i = j
    · subst hj
      exact ⟨t, hdiffers.submission, hmove.begun⟩
    · exact ⟨s, (hdiffers.submissions i hj).trans hs, hphase⟩
  · obtain ⟨cancelled, hafter⟩ := houtside.submission i s hs
    exact ⟨_, hafter, hphase⟩

/-- Whoever is in an exchange after an action was in one before, or has come to it by a step. -/
theorem act_exchanging {t : Submission} (ht : (w.act mint action).submissions[i]? = some t)
    (hwaits : t.phase.waiter?.isSome = true) :
    (∃ s, w.submissions[i]? = some s ∧ s.phase.waiter?.isSome = true) ∨
      ∃ s, action = .resume i ∧ w.submissions[i]? = some s ∧ s.phase.waiter?.isSome = false := by
  obtain ⟨j, s, rfl, _, hs, _, u, _, _, _, hdiffers, _⟩ | houtside := act_cases mint w action
  · by_cases hj : i = j
    · subst hj
      cases hbefore : s.phase.waiter?.isSome with
      | true => exact Or.inl ⟨s, hs, hbefore⟩
      | false => exact Or.inr ⟨s, rfl, hs, hbefore⟩
    · exact Or.inl ⟨t, (hdiffers.submissions i hj).symm.trans ht, hwaits⟩
  · cases hs : w.submissions[i]? with
    | some s =>
        obtain ⟨cancelled, hafter⟩ := houtside.submission i s hs
        obtain rfl := Option.some.inj (ht.symm.trans hafter)
        exact Or.inl ⟨s, rfl, hwaits⟩
    | none =>
        obtain ⟨body, _, rfl⟩ := houtside.joined i t ht hs
        cases hwaits

/-- What is seen on a link after an action was seen before, or comes of the submission that took the
step. -/
theorem act_seen {event : RelayEvent} (hevent : event ∈ (w.act mint action).events) {d : Nat}
    (hsending : event.isSending d = true) :
    event ∈ w.events ∨ ∃ i s t, action = .resume i ∧ w.submissions[i]? = some s ∧
      (w.act mint (.resume i)).submissions[i]? = some t ∧
      event ∈ (w.act mint (.resume i)).events.drop w.events.length ∧
      event.ComesOf ⟨i, t.connection, t.payload⟩ ∧
      (s.phase.waiter?.isSome = true → t.connection = s.connection ∧ t.wire = s.wire) := by
  obtain ⟨i, s, rfl, _, hs, _, t, _, news, hmove, hdiffers, _⟩ | houtside :=
    act_cases mint w action
  · rw [hdiffers.events, List.mem_append] at hevent
    refine hevent.imp_right fun hnew => ⟨i, s, t, rfl, hs, hdiffers.submission, ?_,
      hmove.comesOf hnew hsending, fun hwaits => ?_⟩
    · rw [hdiffers.events, List.drop_left]
      exact hnew
    · have hpassed : s.HasPassed := by
        constructor <;> intro hphase <;> simp [hphase, Phase.waiter?] at hwaits
      exact ⟨(hmove.passed hpassed).2.1, (hmove.passed hpassed).2.2.1⟩
  · obtain ⟨news, hevents, hsent, hfailed⟩ := houtside.events
    rw [hevents, List.mem_append] at hevent
    refine hevent.imp_right fun hnew => ?_
    cases event with
    | sent c payload => exact absurd hnew (hsent c payload)
    | sendFailed c => exact absurd hnew (hfailed c)
    | closed | finished => cases hsending

theorem HasTurn.not_passed (h : w.HasTurn c i) {s : Submission} (hs : w.submissions[i]? = some s) :
    ¬ s.HasPassed := by
  obtain ⟨u, _, hu, _, _, hturn⟩ := h
  obtain rfl := Option.some.inj (hs.symm.trans hu)
  rintro ⟨hfresh, hqueued⟩
  obtain ⟨hphase, _⟩ | ⟨hphase, _⟩ := hturn
  · exact hfresh hphase
  · exact hqueued hphase

/-- A submission has its turn on one connection only. -/
theorem HasTurn.unique {d : Nat} (h : w.HasTurn c i) (h' : w.HasTurn d i) : c = d := by
  obtain ⟨s, _, hs, _, _, hturn⟩ := h
  obtain ⟨t, _, ht, _, _, hturn'⟩ := h'
  obtain rfl := Option.some.inj (hs.symm.trans ht)
  obtain ⟨hfresh, hcurrent, _⟩ | ⟨hqueued, hc, _⟩ := hturn <;>
    obtain ⟨hfresh', hcurrent', _⟩ | ⟨hqueued', hc', _⟩ := hturn'
  · exact Option.some.inj (hcurrent.symm.trans hcurrent')
  · exact absurd hqueued' (by simp [hfresh])
  · exact absurd hfresh' (by simp [hqueued])
  · exact hc.symm.trans hc'

/-- Handing over its task, a submission leaves those who stand behind it. -/
theorem Hands.standing (h : Hands mint w action x) (horderly : w.Orderly) (hlined : w.Lined) :
    ((w.act mint action).gateAt x.connection).standing =
        (w.gateAt x.connection).standing.filter (· != x.submission) ∧
      ((w.gateAt x.connection).standing = [] ∧ w.begins? action = some x.submission ∨
        ∃ rest, (w.gateAt x.connection).standing = x.submission :: rest) := by
  obtain ⟨rfl, hready⟩ := h.step
  obtain ⟨t, ht, hpassed, _⟩ := h.passed
  have hact : w.act mint (.resume x.submission) = w.resume mint x.submission := if_pos hready
  obtain ⟨s, port, hs, hport, _, hturn⟩ := id h.turn
  have hmoved := resume_moved mint hs
  rw [← hact] at hmoved
  constructor
  · obtain ⟨_, _, hphase⟩ | ⟨_, hphase⟩ | hleft := hmoved.standing hs ht hlined x.connection
    · exact absurd hphase hpassed.2
    · exact absurd hphase hpassed.2
    · exact hleft
  · rw [gateAt_of_port hport]
    obtain ⟨hphase, _, hopen⟩ | ⟨_, _, hcalled⟩ := hturn
    · exact Or.inl ⟨Gate.standing_of_isOpen hopen, begins?_of_fresh hready hs hphase⟩
    · exact Or.inr ((horderly.idle hport (h.turn.vacant horderly)).1.standing hcalled)

namespace Sendings

variable {history : List RelayAction}

/-! Each part of what a history hands over is kept by one more action. -/

theorem past_snoc (h : Sendings mint w history) (hown : (w.play mint history).Own)
    (hx : x ∈ w.handings mint (history ++ [action])) :
    ∃ s, (w.play mint (history ++ [action])).submissions[x.submission]? = some s ∧ s.HasPassed ∧
      s.connection = x.connection ∧ s.payload = x.payload ∧ s.IsOwn := by
  rw [handings_snoc, List.mem_append, Option.mem_toList] at hx
  rw [play_snoc]
  obtain hold | hnew := hx
  · obtain ⟨s, hs, hpassed, hconnection, hpayload, hisOwn⟩ := h.past x hold
    obtain ⟨t, ht, hpassed', hconnection', hwire, hkept⟩ := act_passed mint hs hpassed action
    refine ⟨t, ht, hpassed', hconnection'.trans hconnection, ?_, hkept hisOwn⟩
    rw [← hpayload, Submission.payload, Submission.payload, hwire]
  · exact (hands_of_handed? hnew hown).passed

theorem once_snoc (h : Sendings mint w history) (hown : (w.play mint history).Own)
    (action : RelayAction) :
    ((w.handings mint (history ++ [action])).map Handing.submission).Nodup := by
  rw [handings_snoc, List.map_append, List.nodup_append]
  refine ⟨h.once, ?_, ?_⟩
  · cases (w.play mint history).handed? mint action <;> simp
  · rintro i hi j hj rfl
    obtain ⟨x, hx, rfl⟩ := List.mem_map.mp hi
    obtain ⟨y, hy, hsame⟩ := List.mem_map.mp hj
    obtain ⟨s, hs, hpassed, _⟩ := h.past x hx
    rw [← hsame] at hs
    exact (hands_of_handed? (Option.mem_toList.mp hy) hown).turn.not_passed hs hpassed

theorem exchanging_snoc (h : Sendings mint w history) {t : Submission}
    (ht : (w.play mint (history ++ [action])).submissions[i]? = some t)
    (hwaits : t.phase.waiter?.isSome = true) :
    ∃ x ∈ w.handings mint (history ++ [action]), x.submission = i := by
  simp only [handings_snoc, List.mem_append, Option.mem_toList, or_and_right, exists_or]
  rw [play_snoc] at ht
  obtain ⟨s, hs, hphase⟩ | ⟨s, rfl, hs, hbefore⟩ := act_exchanging ht hwaits
  · exact Or.inl (h.exchanging i s hs hphase)
  · exact Or.inr ⟨_, handed?_eq_some hs ht hbefore (Or.inl hwaits), rfl⟩

theorem seen_snoc (h : Sendings mint w history) {event : RelayEvent}
    (hevent : event ∈ (w.play mint (history ++ [action])).events)
    (hsending : event.isSending c = true) :
    ∃ x ∈ w.handings mint (history ++ [action]), event.ComesOf x := by
  simp only [handings_snoc, List.mem_append, Option.mem_toList, or_and_right, exists_or]
  rw [play_snoc] at hevent
  obtain hold | ⟨i, s, t, rfl, hs, ht, hnew, hcomes, hkept⟩ := act_seen hevent hsending
  · exact Or.inl (h.seen event hold c hsending)
  · cases hbefore : s.phase.waiter?.isSome with
    | true =>
        obtain ⟨x, hx, rfl⟩ := h.exchanging i s hs hbefore
        obtain ⟨u, hu, _, hconnection, hpayload, _⟩ := h.past x hx
        obtain rfl := Option.some.inj (hs.symm.trans hu)
        obtain ⟨hsame, hwire⟩ := hkept hbefore
        refine Or.inl ⟨x, hx, hcomes.congr (hconnection.symm.trans hsame.symm) ?_⟩
        rw [← hpayload, Submission.payload, Submission.payload, hwire]
    | false =>
        refine Or.inr ⟨_, handed?_eq_some hs ht hbefore (Or.inr ?_), hcomes⟩
        exact List.any_eq_true.mpr ⟨event, hnew, hcomes.isSending⟩

theorem begun_snoc (h : Sendings mint w history)
    (hi : i ∈ w.begun mint (history ++ [action])) :
    ∃ s, (w.play mint (history ++ [action])).submissions[i]? = some s ∧ s.phase ≠ .fresh := by
  rw [World.begun_snoc, List.mem_append, Option.mem_toList] at hi
  rw [play_snoc]
  obtain hold | hnew := hi
  · obtain ⟨s, hs, hphase⟩ := h.begun i hold
    exact act_begun hs hphase action
  · exact begins?_begun hnew

theorem begunOnce_snoc (h : Sendings mint w history) (action : RelayAction) :
    (w.begun mint (history ++ [action])).Nodup := by
  rw [World.begun_snoc, List.nodup_append]
  refine ⟨h.begunOnce, ?_, ?_⟩
  · cases (w.play mint history).begins? action <;> simp
  · rintro i hi j hj rfl
    obtain ⟨s, hs, hphase⟩ := h.begun i hi
    obtain ⟨_, _, u, hu, hfresh⟩ := begins?_eq_some (Option.mem_toList.mp hj)
    rw [hs] at hu
    exact hphase (Option.some.inj hu ▸ hfresh)

/-- Whoever hands its task over was the first in line, or has just begun. -/
theorem order_of_handed (h : Sendings mint w history)
    (horderly : (w.play mint history).Orderly) (hlined : (w.play mint history).Lined)
    (hhands : Hands mint (w.play mint history) action x) :
    (((w.handings mint history).filter (·.connection == x.connection)).map Handing.submission ++
      [x.submission] ++ (((w.play mint history).act mint action).gateAt x.connection).standing
      ).Sublist (w.begun mint history ++ ((w.play mint history).begins? action).toList) := by
  have hold := h.order x.connection
  obtain ⟨hleft, ⟨hempty, hbegins⟩ | ⟨rest, hrest⟩⟩ := hhands.standing horderly hlined
  · rw [hempty] at hold hleft
    rw [hleft, hbegins]
    simpa using hold
  · rw [hrest] at hold hleft
    rw [hleft]
    refine List.Sublist.trans ?_ (List.sublist_append_of_sublist_left hold)
    rw [List.append_assoc, List.singleton_append, List.filter_cons_of_neg (by simp)]
    exact (List.filter_sublist.cons_cons _).append_left _

theorem order_snoc (h : Sendings mint w history) (horderly : (w.play mint history).Orderly)
    (hlined : (w.play mint history).Lined) (hown : (w.play mint history).Own)
    (action : RelayAction) (c : Nat) :
    (((w.handings mint (history ++ [action])).filter (·.connection == c)).map Handing.submission ++
      ((w.play mint (history ++ [action])).gateAt c).standing).Sublist
        (w.begun mint (history ++ [action])) := by
  rw [handings_snoc, World.begun_snoc, play_snoc, List.filter_append, List.map_append]
  by_cases hnew : ∃ x, (w.play mint history).handed? mint action = some x ∧ x.connection = c
  · obtain ⟨x, hx, rfl⟩ := hnew
    rw [hx, Option.toList_some, List.filter_cons_of_pos (by simp), List.filter_nil]
    exact h.order_of_handed horderly hlined (hands_of_handed? hx hown)
  · have hnone : (((w.play mint history).handed? mint action).toList.filter
        (·.connection == c)) = [] := by
      refine List.filter_eq_nil_iff.mpr fun x hx heq => hnew ⟨x, Option.mem_toList.mp hx, ?_⟩
      exact beq_iff_eq.mp heq
    rw [hnone, List.map_nil, List.append_nil]
    refine ((act_standing mint hlined action c).append_left _).trans ?_
    rw [← List.append_assoc]
    exact (h.order c).append_right _

theorem snoc (h : Sendings mint w history) (horderly : (w.play mint history).Orderly)
    (hlined : (w.play mint history).Lined) (hown : (w.play mint history).Own)
    (action : RelayAction) : Sendings mint w (history ++ [action]) where
  past _ := h.past_snoc hown
  once := h.once_snoc hown action
  exchanging _ _ := h.exchanging_snoc
  seen _ hevent _ := h.seen_snoc hevent
  begun _ := h.begun_snoc
  begunOnce := h.begunOnce_snoc action
  order := h.order_snoc horderly hlined hown action

end Sendings

theorem Sendings.append {history : List RelayAction} (h : Sendings mint w history)
    (horderly : (w.play mint history).Orderly) (hlined : (w.play mint history).Lined)
    (hown : (w.play mint history).Own) (rest : List RelayAction) :
    Sendings mint w (history ++ rest) := by
  induction rest generalizing history with
  | nil => simpa using h
  | cons action rest ih =>
      have hnext := h.snoc horderly hlined hown action
      have horderly' : (w.play mint (history ++ [action])).Orderly := by
        rw [play_snoc]
        exact act_orderly mint _ action horderly
      have hlined' : (w.play mint (history ++ [action])).Lined := by
        rw [play_snoc]
        exact act_lined mint _ action hlined
      have hown' : (w.play mint (history ++ [action])).Own := by
        rw [play_snoc]
        exact act_own hown
      simpa using ih hnext horderly' hlined' hown'

theorem fresh_own (patience : Patience) : (fresh patience).Own := fun i s hs => by
  simp [fresh] at hs

/-- What every history hands over. -/
theorem sendings (mint : Nat → String) (patience : Patience) (history : List RelayAction) :
    Sendings mint (fresh patience) history := by
  have hstart : Sendings mint (fresh patience) [] := by
    constructor <;> simp [handings, World.begun, gateAt, fresh, Gate.fresh, Gate.standing]
  have h := hstart.append (fresh_orderly patience) (fresh_lined patience) (fresh_own patience)
    history
  simpa using h

theorem play_own (mint : Nat → String) (patience : Patience) (history : List RelayAction) :
    ((fresh patience).play mint history).Own :=
  play_induction (fun _ _ => act_own) (fresh_own patience) history

/-- Whoever has passed hands nothing over any more. -/
theorem handings_of_passed {s : Submission} (hs : w.submissions[i]? = some s)
    (hpassed : s.HasPassed) (hown : w.Own) (rest : List RelayAction) :
    ∀ x ∈ w.handings mint rest, x.submission ≠ i := by
  induction rest generalizing w s with
  | nil => simp [handings]
  | cons action rest ih =>
      intro x hx
      rw [handings, List.mem_append, Option.mem_toList] at hx
      obtain hnow | hlater := hx
      · rintro rfl
        exact (hands_of_handed? hnow hown).turn.not_passed hs hpassed
      · obtain ⟨t, ht, hpassed', _⟩ := act_passed mint hs hpassed action
        exact ih ht hpassed' (act_own hown) x hlater

/-- How a submission ends whose connection is replaced or closed when it has its turn: it reaches no
executor. Before it comes to that, operations without a length or an endless wait may be noticed. -/
def Refuses (w : World) (c : Nat) (s : Submission) : Prop :=
  ∃ outcome, s.phase = .finished outcome ∧ ((∃ reason, outcome = .noPeer reason) ∨
    w.current? = some c ∧ ((∃ type, (s.wire.lookup ↑"ops").bind unmeasuredType? = some type ∧
      outcome = .unmeasured type) ∨ w.patience = .overlong ∧ outcome = .overlong))

theorem HasTurn.refused (h : w.HasTurn c i) (hready : i ∈ w.ready) (horderly : w.Orderly)
    (hrefused : w.current? ≠ some c ∨
      ∃ port, w.ports[c]? = some port ∧ port.connection.closed = true) :
    ∃ t, (w.act mint (.resume i)).submissions[i]? = some t ∧ w.Refuses c t := by
  have hact : w.act mint (.resume i) = w.resume mint i := if_pos hready
  have hvacant := h.vacant horderly
  obtain ⟨s, port, hs, hport, hcancelled, hturn⟩ := h
  have hidle := (horderly.idle hport hvacant).2
  have hrefused : w.current? ≠ some c ∨ port.connection.closed = true := by
    refine hrefused.imp_right ?_
    rintro ⟨p, hp, hclosed⟩
    rw [hport] at hp
    exact Option.some.inj hp ▸ hclosed
  obtain ⟨d, t, port', news, hmove, hdiffers, _⟩ := resume_moved mint hs
  refine ⟨t, by rw [hact]; exact hdiffers.submission, ?_⟩
  obtain ⟨rfl, -, u, gate, next, hwire, hentry⟩ := hmove.enters hport hcancelled hturn
  have hrefuses := hentry.refused hidle hrefused
  rw [← hwire] at hrefuses
  exact hrefuses

/-- Whoever has its turn and finds its connection current and open hands its task over. -/
theorem HasTurn.hands (h : w.HasTurn c i) (hready : i ∈ w.ready) (horderly : w.Orderly)
    (hcurrent : w.current? = some c)
    (hopen : ∀ port, w.ports[c]? = some port → port.connection.closed = false)
    (hpatience : w.patience ≠ .overlong) {t : Submission}
    (ht : (w.act mint (.resume i)).submissions[i]? = some t)
    (hmeasured : (t.wire.lookup ↑"ops").bind unmeasuredType? = none) :
    w.handed? mint (.resume i) = some ⟨i, c, t.payload⟩ := by
  have hact : w.act mint (.resume i) = w.resume mint i := if_pos hready
  have hvacant := h.vacant horderly
  obtain ⟨s, port, hs, hport, hcancelled, hturn⟩ := h
  obtain ⟨d, t', port', news, hmove, hdiffers, _⟩ := resume_moved mint hs
  rw [← hact] at hdiffers
  obtain rfl := Option.some.inj (hdiffers.submission.symm.trans ht)
  obtain ⟨rfl, hconnection, u, gate, next, hwire, hentry⟩ := hmove.enters hport hcancelled hturn
  rw [hwire] at hmeasured
  have hgoes := hentry.goes (horderly.idle hport hvacant).2 hcurrent (hopen port hport) hmeasured
    hpatience
  have hbefore : s.phase.waiter?.isNone = true := by
    obtain ⟨hphase, _⟩ | ⟨hphase, _⟩ := hturn <;> simp [hphase, Phase.waiter?]
  unfold handed?
  simp only [hs, ht, hbefore, hdiffers.events, List.drop_left, hconnection, Bool.true_and]
  rw [if_pos (by rw [Bool.or_eq_true]; exact hgoes)]

/-- Whatever happens, a task is handed to the link of a connection only while that is current and
open, and nothing is seen on a link that was not handed to it; each submission hands over its own
task, and does so once; on each connection that happens in the order in which the submissions began;
and a submission that finds its connection replaced or closed when it has its turn ends with that
and never hands anything over. -/
theorem sends_safely (mint : Nat → String) (patience : Patience) (history : List RelayAction) :
    (∀ before action rest x, history = before ++ action :: rest →
      ((fresh patience).play mint before).handed? mint action = some x →
      ((fresh patience).play mint before).current? = some x.connection ∧
        ∃ port, ((fresh patience).play mint before).ports[x.connection]? = some port ∧
          port.connection.closed = false) ∧
    (∀ event ∈ ((fresh patience).play mint history).events, ∀ c, event.isSending c = true →
      ∃ x ∈ (fresh patience).handings mint history, event.ComesOf x) ∧
    (((fresh patience).handings mint history).map Handing.submission).Nodup ∧
    (∀ x ∈ (fresh patience).handings mint history, ∃ s,
      ((fresh patience).play mint history).submissions[x.submission]? = some s ∧
        s.connection = x.connection ∧ s.payload = x.payload ∧ s.IsOwn) ∧
    (∀ c, ((((fresh patience).handings mint history).filter (·.connection == c)).map
      Handing.submission).Sublist ((fresh patience).begun mint history)) ∧
    ∀ before i rest c, history = before ++ .resume i :: rest →
      i ∈ ((fresh patience).play mint before).ready →
      ((fresh patience).play mint before).HasTurn c i →
      (((fresh patience).play mint before).current? ≠ some c ∨
        ∃ port, ((fresh patience).play mint before).ports[c]? = some port ∧
          port.connection.closed = true) →
      (∃ t, (((fresh patience).play mint before).act mint (.resume i)).submissions[i]? = some t ∧
        ((fresh patience).play mint before).Refuses c t) ∧
      ∀ x ∈ (fresh patience).handings mint history, x.submission ≠ i := by
  have hall := sendings mint patience history
  refine ⟨?_, hall.seen, hall.once, ?_, ?_, ?_⟩
  · intro before action rest x _ hx
    have hhands := hands_of_handed? hx (play_own mint patience before)
    exact ⟨hhands.current, hhands.opened⟩
  · intro x hx
    obtain ⟨s, hs, _, hconnection, hpayload, hown⟩ := hall.past x hx
    exact ⟨s, hs, hconnection, hpayload, hown⟩
  · exact fun c => (List.sublist_append_left _ _).trans (hall.order c)
  · rintro before i rest c rfl hready hturn hrefused
    have hown := play_own mint patience before
    obtain ⟨t, ht, hrefuses⟩ :=
      hturn.refused hready (play_orderly mint patience before) hrefused
    refine ⟨⟨t, ht, hrefuses⟩, fun x hx => ?_⟩
    rw [handings_append, List.mem_append, handings, List.mem_append, Option.mem_toList] at hx
    obtain hbefore | hnow | hlater := hx
    · rintro rfl
      obtain ⟨s, hs, hpassed, _⟩ := (sendings mint patience before).past x hbefore
      exact hturn.not_passed hs hpassed
    · rintro rfl
      have hhands := hands_of_handed? hnow hown
      obtain rfl := hturn.unique hhands.turn
      obtain ⟨port, hport, hopen⟩ := hhands.opened
      obtain hreplaced | ⟨p, hp, hclosed⟩ := hrefused
      · exact hreplaced hhands.current
      · rw [hport] at hp
        obtain rfl := Option.some.inj hp
        rw [hopen] at hclosed
        cases hclosed
    · obtain ⟨outcome, hphase, _⟩ := hrefuses
      have hpassed : t.HasPassed := ⟨by simp [hphase], by simp [hphase]⟩
      exact handings_of_passed ht hpassed (act_own hown) rest x hlater

end

/-- Decides whether a submission has its turn on a connection, and that is closed or replaced. -/
def turnsAway (w : World) (c i : Nat) : Bool :=
  w.ready.contains i && (w.submissions[i]?).any fun s => (w.ports[c]?).any fun port =>
    !s.cancelled && (w.current? != some c || port.connection.closed) &&
      match s.phase with
      | .fresh => w.current? == some c && port.gate.isOpen
      | .queued => s.connection == c && port.gate.turn? i == some .called
      | _ => false

theorem of_turnsAway {w : World} {c i : Nat} (h : w.turnsAway c i = true) :
    i ∈ w.ready ∧ w.HasTurn c i ∧ (w.current? ≠ some c ∨
      ∃ port, w.ports[c]? = some port ∧ port.connection.closed = true) := by
  unfold turnsAway at h
  rw [Bool.and_eq_true, List.contains_iff_mem, Option.any_eq_true] at h
  obtain ⟨hready, s, hs, h⟩ := h
  obtain ⟨port, hport, h⟩ := (Option.any_eq_true _ _).mp h
  simp only [Bool.and_eq_true, Bool.not_eq_true', Bool.or_eq_true, bne_iff_ne] at h
  obtain ⟨⟨hcancelled, hrefused⟩, hturn⟩ := h
  refine ⟨hready, ⟨s, port, hs, hport, hcancelled, ?_⟩,
    hrefused.imp_right fun hclosed => ⟨port, hport, hclosed⟩⟩
  split at hturn
  next hphase => exact Or.inl ⟨hphase, by simpa using hturn⟩
  next hphase => exact Or.inr ⟨hphase, by simpa using hturn⟩
  next => cases hturn

/-- A history in which a connection is replaced while a second task waits in line for it. -/
def replacedBefore : List RelayAction :=
  [.connect "designer", .submit [("ops", .list []), ("taskId", .text "first")],
    .submit [("ops", .list []), ("taskId", .text "second")], .resume 0, .resume 1,
    .connect "successor", .deliver 0 "\x7b\"ok\": true\x7d", .resume 0]

/-- The second task is sent neither on the old connection nor on the new one. -/
theorem sends_safely_replaced :
    ∀ x ∈ (fresh (.lasting 10)).handings (fun _ => "") (replacedBefore ++ [.resume 1]),
      x.submission ≠ 1 := by
  have haway : ((fresh (.lasting 10)).play (fun _ => "") replacedBefore).turnsAway 0 1 = true := by
    decide +kernel
  obtain ⟨hready, hturn, hrefused⟩ := of_turnsAway haway
  exact ((sends_safely (fun _ => "") (.lasting 10) (replacedBefore ++ [.resume 1])).2.2.2.2.2
    replacedBefore 1 [] 0 rfl hready hturn hrefused).2

/-- Whether a submission ended because its operations have no length. -/
def endedUnmeasured (s : Submission) : Bool :=
  match s.phase with
  | .finished (.unmeasured _) => true
  | _ => false

/-- A history in which a connection is closed and still current when a task comes whose operations
have no length. -/
def closedBefore : List RelayAction :=
  [.connect "designer", .close 0 1000 "", .submit [("ops", .int 5)]]

/-- On a closed connection that is still current, operations without a length are noticed before the
connection: the submission ends otherwise than with no executor. -/
theorem unmeasured_before_closed :
    ¬ ∀ (history : List RelayAction) (c i : Nat),
      i ∈ ((fresh (.lasting 10)).play (fun _ => "") history).ready →
      ((fresh (.lasting 10)).play (fun _ => "") history).HasTurn c i →
      (((fresh (.lasting 10)).play (fun _ => "") history).current? ≠ some c ∨
        ∃ port, ((fresh (.lasting 10)).play (fun _ => "") history).ports[c]? = some port ∧
          port.connection.closed = true) →
      ∃ t reason, (((fresh (.lasting 10)).play (fun _ => "") history).act (fun _ => "")
        (.resume i)).submissions[i]? = some t ∧ t.phase = .finished (.noPeer reason) := by
  intro hall
  have haway : ((fresh (.lasting 10)).play (fun _ => "") closedBefore).turnsAway 0 0 = true := by
    decide +kernel
  have hended : ((((fresh (.lasting 10)).play (fun _ => "") closedBefore).act (fun _ => "")
      (.resume 0)).submissions[0]?).any endedUnmeasured = true := by
    decide +kernel
  obtain ⟨hready, hturn, hrefused⟩ := of_turnsAway haway
  obtain ⟨t, reason, ht, hphase⟩ := hall closedBefore 0 0 hready hturn hrefused
  rw [ht, Option.any_some, endedUnmeasured, hphase] at hended
  cases hended

end DesignBridge.World
