import DesignBridge.Proofs.Relay.Step

/-! # What happens from outside

An action that is no step of a submission adds a submission or a port, or changes one port in one of
four ways. No submission comes any further by it; at most it is marked as cancelled.
-/

namespace DesignBridge

/-- What an action from outside makes of the port of a connection. -/
inductive Touch (c : Nat) (port : Port) : RelayAction → Port → Prop
  | untouched (action : RelayAction) : Touch c port action port
  | delivered (frame : String) :
      Touch c port (.deliver c frame)
        { port with connection := (port.connection.deliver frame).1 }
  | linked (link : Link) : Touch c port (.setLink c link) { port with link }
  | closed (code : Int) (reason : String) :
      Touch c port (.close c code reason) { port with connection := port.connection.close }
  | withdrew (i : Nat) : Touch c port (.cancel i) { port with gate := port.gate.withdraw i }

namespace World

/-- What an action from outside keeps. -/
structure Outside (w : World) (action : RelayAction) (after : World) : Prop where
  submission : ∀ (i : Nat) (s : Submission), w.submissions[i]? = some s →
    ∃ cancelled, after.submissions[i]? = some { s with cancelled }
  joined : ∀ (i : Nat) (s : Submission), after.submissions[i]? = some s → w.submissions[i]? = none →
    ∃ body, action = .submit body ∧ s = .fresh body
  port : ∀ (c : Nat) (port : Port), w.ports[c]? = some port →
    ∃ next, after.ports[c]? = some next ∧ Touch c port action next
  opened : ∀ (c : Nat) (port : Port), after.ports[c]? = some port → w.ports[c]? = none →
    ∃ peer, port = ⟨.fresh peer, .fresh, .up⟩
  events : ∃ news, after.events = w.events ++ news ∧ (∀ c payload, .sent c payload ∉ news) ∧
    ∀ c, .sendFailed c ∉ news
  patience : after.patience = w.patience
  now : w.now ≤ after.now
  ready : ∀ i ∈ w.ready, (w.submissions[i]?).isSome → i ∈ after.ready
  /-- Whoever is cancelled before it has ended can go on, and no one else's mark changes. -/
  cancelled : ∀ (i : Nat) (s t : Submission), w.submissions[i]? = some s →
    after.submissions[i]? = some t → (action ≠ .cancel i → t.cancelled = s.cancelled) ∧
      (action = .cancel i → s.isFinished = false → t.cancelled = true ∧ i ∈ after.ready)

theorem touched_modifyPort {w : World} {action : RelayAction} {c d : Nat} {f : Port → Port}
    (htouch : ∀ port, Touch c port action (f port)) {port : Port}
    (hport : w.ports[d]? = some port) :
    ∃ next, (w.modifyPort c f).ports[d]? = some next ∧ Touch d port action next := by
  by_cases hd : c = d
  · subst hd
    exact ⟨f port, by simp [World.modifyPort, hport], htouch port⟩
  · exact ⟨port, by simp [World.modifyPort, hd, hport], .untouched action⟩

namespace Outside

variable {w after : World} {action : RelayAction}

theorem same (hsubmissions : after.submissions = w.submissions) (hports : after.ports = w.ports)
    (hevents : after.events = w.events) (hpatience : after.patience = w.patience)
    (hnow : w.now ≤ after.now)
    (hready : ∀ i ∈ w.ready, (w.submissions[i]?).isSome → i ∈ after.ready)
    (hcancel : ∀ i s, action = .cancel i → w.submissions[i]? = some s → s.isFinished = true :=
      by simp) :
    Outside w action after where
  submission i s hs := ⟨s.cancelled, by rw [hsubmissions]; exact hs⟩
  joined i s hs hnone := by
    rw [hsubmissions, hnone] at hs
    cases hs
  port c port hport := ⟨port, by rw [hports]; exact hport, .untouched action⟩
  opened c port hport hnone := by
    rw [hports, hnone] at hport
    cases hport
  events := ⟨[], by simp [hevents], by simp, by simp⟩
  patience := hpatience
  now := hnow
  ready := hready
  cancelled i s t hs ht := by
    rw [hsubmissions, hs] at ht
    obtain rfl := Option.some.inj ht
    exact ⟨fun _ => rfl, fun haction hopen => by simp [hcancel i s haction hs] at hopen⟩

theorem refl (w : World) (action : RelayAction)
    (hcancel : ∀ i s, action = .cancel i → w.submissions[i]? = some s → s.isFinished = true :=
      by simp) : Outside w action w :=
  same rfl rfl rfl rfl Rat.le_refl (fun _ h _ => h) hcancel

theorem wake (h : Outside w action after) (i : Nat) : Outside w action (after.wake i) where
  submission := by simpa using h.submission
  joined := by simpa using h.joined
  port := by simpa using h.port
  opened := by simpa using h.opened
  events := by simpa using h.events
  patience := by simpa using h.patience
  now := by simpa using h.now
  ready j hj hs := mem_ready_wake.mpr (Or.inl (h.ready j hj hs))
  cancelled j s t hs ht := by
    rw [wake_submissions] at ht
    obtain ⟨hkept, hcancelled⟩ := h.cancelled j s t hs ht
    exact ⟨hkept, fun haction hopen =>
      (hcancelled haction hopen).imp_right fun hready => mem_ready_wake.mpr (Or.inl hready)⟩

theorem wake? (h : Outside w action after) (i : Option Nat) :
    Outside w action (after.wake? i) := by
  cases i with
  | none => exact h
  | some i => exact h.wake i

theorem modifyPort {c : Nat} {f : Port → Port} (htouch : ∀ port, Touch c port action (f port))
    (hcancel : ∀ i, action ≠ .cancel i := by simp) :
    Outside w action (w.modifyPort c f) where
  submission i s hs := ⟨s.cancelled, hs⟩
  joined i s hs hnone := by
    have hs : w.submissions[i]? = some s := hs
    rw [hnone] at hs
    cases hs
  port _ _ hport := touched_modifyPort htouch hport
  opened d port hport hnone := by
    simp [World.modifyPort, List.getElem?_modify, hnone] at hport
  events := ⟨[], by simp [World.modifyPort], by simp, by simp⟩
  patience := rfl
  now := Rat.le_refl
  ready _ h _ := h
  cancelled i s t hs ht :=
    ⟨fun _ => by rw [Option.some.inj (ht.symm.trans hs)], fun h => absurd h (hcancel i)⟩

end Outside

theorem outside_connect (w : World) (peer : String) :
    Outside w (.connect peer) (w.connect peer).1 where
  submission i s hs := ⟨s.cancelled, hs⟩
  joined i s hs hnone := by
    have hs : w.submissions[i]? = some s := hs
    rw [hnone] at hs
    cases hs
  port c port hport := by
    have hlt : c < w.ports.length := (List.getElem?_eq_some_iff.mp hport).1
    refine ⟨port, ?_, .untouched _⟩
    show (w.ports ++ _)[c]? = some port
    rw [List.getElem?_append_left hlt]
    exact hport
  opened c port hport hnone := by
    have hport : (w.ports ++ [⟨.fresh peer, .fresh, .up⟩])[c]? = some port := hport
    rw [List.getElem?_append_right (List.getElem?_eq_none_iff.mp hnone)] at hport
    have hmem := List.mem_of_getElem? hport
    exact ⟨peer, List.mem_singleton.mp hmem⟩
  events := ⟨[], by simp [connect, register], by simp, by simp⟩
  patience := rfl
  now := Rat.le_refl
  ready _ h _ := h
  cancelled i s t hs ht := ⟨fun _ => by rw [Option.some.inj (ht.symm.trans hs)], by simp⟩

theorem outside_submit (w : World) (body : Json.Members) :
    Outside w (.submit body) (w.submit body).1 := by
  have hjoined : Outside w (.submit body)
      { w with submissions := w.submissions ++ [.fresh body] } := by
    constructor
    case submission =>
      intro i s hs
      have hlt : i < w.submissions.length := (List.getElem?_eq_some_iff.mp hs).1
      refine ⟨s.cancelled, ?_⟩
      dsimp only
      rw [List.getElem?_append_left hlt]
      exact hs
    case joined =>
      intro i s hs hnone
      dsimp only at hs
      rw [List.getElem?_append_right (List.getElem?_eq_none_iff.mp hnone)] at hs
      exact ⟨body, rfl, List.mem_singleton.mp (List.mem_of_getElem? hs)⟩
    case port => exact fun c port hport => ⟨port, hport, .untouched _⟩
    case opened =>
      intro c port hport hnone
      dsimp only at hport
      rw [hnone] at hport
      cases hport
    case events => exact ⟨[], by simp, by simp, by simp⟩
    case patience => rfl
    case now => exact Rat.le_refl
    case ready => exact fun _ h _ => h
    case cancelled =>
      intro i s t hs ht
      have hlt : i < w.submissions.length := (List.getElem?_eq_some_iff.mp hs).1
      dsimp only at ht
      rw [List.getElem?_append_left hlt, hs] at ht
      exact ⟨fun _ => by rw [Option.some.inj ht], by simp⟩
  exact hjoined.wake _

theorem outside_deliver (w : World) (c : Nat) (frame : String) :
    Outside w (.deliver c frame) (w.deliver c frame).1 := by
  unfold deliver
  cases hport : w.ports[c]? with
  | none => exact .refl w _
  | some port =>
      have htaken : Outside w (.deliver c frame)
          (w.modifyConnection c fun _ => (port.connection.deliver frame).1) := by
        constructor
        case port =>
          intro d other hother
          by_cases hd : c = d
          · subst hd
            obtain rfl := Option.some.inj (hport.symm.trans hother)
            exact ⟨_, by simp [modifyConnection, modifyPort, hport], .delivered frame⟩
          · exact ⟨other, by simp [modifyConnection, modifyPort, hd, hother], .untouched _⟩
        case submission => exact fun i s hs => ⟨s.cancelled, hs⟩
        case joined =>
          intro i s hs hnone
          have hs : w.submissions[i]? = some s := hs
          rw [hnone] at hs
          cases hs
        case opened =>
          intro d other hother hnone
          simp [modifyConnection, modifyPort, List.getElem?_modify, hnone] at hother
        case events => exact ⟨[], by simp [modifyConnection, modifyPort], by simp, by simp⟩
        case patience => rfl
        case now => exact Rat.le_refl
        case ready => exact fun _ h _ => h
        case cancelled =>
          exact fun i s t hs ht => ⟨fun _ => by rw [Option.some.inj (ht.symm.trans hs)], by simp⟩
      dsimp only
      split
      next => exact htaken
      next => exact htaken.wake? _

theorem outside_cancel (w : World) (i : Nat) : Outside w (.cancel i) (w.cancel i) := by
  unfold cancel
  cases hs : w.submissions[i]? with
  | none => exact .refl w _ fun j t heq ht => by cases heq; rw [hs] at ht; cases ht
  | some s =>
      dsimp only
      split
      next hended =>
        refine .refl w _ fun j t heq ht => ?_
        cases heq
        rw [← Option.some.inj (hs.symm.trans ht)]
        exact hended
      next =>
        constructor
        case submission =>
          intro j t ht
          by_cases hj : i = j
          · exact ⟨true, by simp [modifySubmission, modifyPort, hj, ht]⟩
          · exact ⟨t.cancelled, by simp [modifySubmission, modifyPort, hj, ht]⟩
        case joined =>
          intro j t ht hnone
          simp [modifySubmission, modifyPort, List.getElem?_modify, hnone] at ht
        case port =>
          intro d port hport
          rw [wake_ports]
          exact touched_modifyPort (fun port => .withdrew i) hport
        case opened =>
          intro d port hport hnone
          simp [modifySubmission, modifyPort, List.getElem?_modify, hnone] at hport
        case events => exact ⟨[], by simp [modifySubmission, modifyPort], by simp, by simp⟩
        case patience => simp [modifySubmission, modifyPort]
        case now => simp [modifySubmission, modifyPort]
        case ready => exact fun _ h _ => mem_ready_wake.mpr (Or.inl h)
        case cancelled =>
          intro j t u ht hu
          have hu : (w.submissions.modify i ({ · with cancelled := true }))[j]? = some u := by
            simpa [modifySubmission, modifyPort] using hu
          constructor
          · intro hne
            have hj : i ≠ j := fun heq => hne (heq ▸ rfl)
            rw [List.getElem?_modify_ne _ _ hj, ht] at hu
            rw [Option.some.inj hu]
          · rintro ⟨⟩ _
            rw [List.getElem?_modify_eq, ht] at hu
            obtain rfl := Option.some.inj hu
            exact ⟨rfl, mem_ready_wake.mpr (Or.inr rfl)⟩

theorem foldl_wake_outside {w after : World} {action : RelayAction} (h : Outside w action after)
    (who : List Nat) : Outside w action (who.foldl World.wake after) := by
  induction who generalizing after with
  | nil => exact h
  | cons i rest ih => exact ih (h.wake i)

/-- Every action is a step of a submission that can take one, or comes from outside. -/
theorem act_cases (mint : Nat → String) (w : World) (action : RelayAction) :
    (∃ i s, action = .resume i ∧ i ∈ w.ready ∧ w.submissions[i]? = some s ∧
      Moved mint w (w.act mint action) i s) ∨ Outside w action (w.act mint action) := by
  cases action with
  | connect peer => exact Or.inr (outside_connect w peer)
  | register c | unregister c => exact Or.inr (.same rfl rfl rfl rfl Rat.le_refl fun _ h _ => h)
  | submit body => exact Or.inr (outside_submit w body)
  | deliver c frame => exact Or.inr (outside_deliver w c frame)
  | setLink c link =>
      have hlinked : Outside w (.setLink c link) (w.modifyPort c ({ · with link })) :=
        .modifyPort fun port => .linked link
      simp only [act, setLink]
      split
      next => exact Or.inr hlinked
      next => exact Or.inr (hlinked.wake? _)
  | close c code reason =>
      have hclosed : Outside w (.close c code reason) (w.modifyConnection c (·.close)) :=
        .modifyPort fun port => .closed code reason
      have hevents : ∃ news, (w.close c code reason).events = w.events ++ news ∧
          (∀ d payload, .sent d payload ∉ news) ∧ ∀ d, .sendFailed d ∉ news :=
        ⟨[.closed c code reason], rfl, by simp, by simp⟩
      exact Or.inr ⟨hclosed.submission, hclosed.joined, hclosed.port, hclosed.opened, hevents,
        hclosed.patience, hclosed.now, hclosed.ready, hclosed.cancelled⟩
  | cancel i => exact Or.inr (outside_cancel w i)
  | resume i =>
      simp only [act]
      split
      next hready =>
        cases hs : w.submissions[i]? with
        | some s => exact Or.inl ⟨i, s, rfl, hready, hs, resume_moved mint hs⟩
        | none =>
            refine Or.inr ?_
            simp only [resume, hs]
            refine .same rfl rfl rfl rfl Rat.le_refl fun j hj hthere => ?_
            have hne : j ≠ i := fun heq => by simp [heq, hs] at hthere
            exact (List.mem_erase_of_ne hne).mpr hj
      next => exact Or.inr (.refl w _)
  | wait seconds =>
      simp only [act]
      split
      next => exact Or.inr (.refl w _)
      next hpos =>
        have hlater : w.now ≤ w.now + seconds := by
          have hpos : 0 ≤ seconds := Rat.le_of_lt (Rat.not_le.mp hpos)
          simpa [Rat.add_zero] using (Rat.add_le_add_left (c := w.now)).mpr hpos
        have hlast : Outside w (.wait seconds) { w with now := w.now + seconds } :=
          .same rfl rfl rfl rfl hlater fun _ h _ => h
        exact Or.inr (foldl_wake_outside hlast _)

/-- What holds at first and is kept by every action holds after every history. -/
theorem play_induction {mint : Nat → String} {P : World → Prop}
    (hact : ∀ w action, P w → P (w.act mint action)) {w : World} (h : P w)
    (history : List RelayAction) : P (w.play mint history) := by
  induction history generalizing w with
  | nil => exact h
  | cons action rest ih => exact ih (hact w action h)

end World

end DesignBridge
