import DesignBridge.Proofs.Relay.Outside

/-! # What the relay does to executors

The relay closes no connection and makes none current. The only connection that it takes from the
registry is one on which sending failed, be it that the link refused the task or that the connection
was closed already.
-/

namespace DesignBridge

section

variable {mint : Nat → String} {w : World} {i c : Nat} {s t : Submission} {port after : Port}
  {before then_ : Option Port} {phase : Phase} {outcome : Outcome} {news : List RelayEvent}

theorem Entry.closed_eq (h : Entry w i c s port phase after news) :
    after.connection.closed = port.connection.closed := by
  cases h with
  | replaced | unmeasured | overlong | busy => rfl
  | closed _ hexpect | broken _ hexpect | late _ hexpect =>
      exact (Connection.clear_closed _ _).trans (Connection.expect_closed hexpect)
  | stalled _ hexpect | sent _ hexpect => exact Connection.expect_closed hexpect

theorem Move.closed_eq (h : Move mint w i c s before t then_ news) :
    then_.map (·.connection.closed) = before.map (·.connection.closed) := by
  cases h with
  | rested | abandoned | alone | unopened | joined | withdrew | sent => rfl
  | entered _ _ _ _ hentry | called _ _ _ _ hentry => exact congrArg some hentry.closed_eq
  | rearmed _ _ _ _ hexpect => exact congrArg some (Connection.expect_closed hexpect)
  | overdue _ _ _ _ hexpect =>
      exact congrArg some ((Connection.clear_closed _ _).trans (Connection.expect_closed hexpect))
  | ended => exact congrArg some (Connection.clear_closed _ _)

theorem Entry.lost (h : Entry w i c s port phase after news) {reason : String}
    (hlost : .finished i (.noPeer (.lost reason)) ∈ news) :
    .sendFailed c ∈ news ∨ port.connection.closed = true := by
  cases h with
  | closed _ hexpect hclosed => exact Or.inr ((Connection.expect_closed hexpect).symm.trans hclosed)
  | broken => exact Or.inl List.mem_cons_self
  | _ => simp at hlost

theorem Ending.lost {waiter : Nat} (h : Ending w s port waiter outcome news) {reason : String}
    (hlost : .finished i (.noPeer (.lost reason)) ∈ news ++ [.finished i outcome]) :
    .sendFailed s.connection ∈ news := by
  cases h with
  | broken => exact List.mem_cons_self
  | _ => simp at hlost

/-- A submission gives its connection up only if the link refused its task or the connection was
closed. -/
theorem Move.lost (h : Move mint w i c s before t then_ news) {reason : String}
    (hlost : .finished i (.noPeer (.lost reason)) ∈ news) :
    .sendFailed c ∈ news ∨ before.map (·.connection.closed) = some true := by
  cases h with
  | entered _ _ _ _ hentry | called _ _ _ _ hentry =>
      exact (hentry.lost hlost).imp_right (congrArg some)
  | ended hc hending => exact Or.inl (List.mem_append_left _ (hc ▸ hending.lost hlost))
  | _ => simp at hlost

end

namespace World

/-- Whether a connection is there and does not count as closed. -/
def isOpen (w : World) (c : Nat) : Bool :=
  w.ports[c]?.any (!·.connection.closed)

/-- Whether the link of a connection refuses, by an action, what is sent on it. -/
def SendFails (mint : Nat → String) (w : World) (action : RelayAction) (c : Nat) : Prop :=
  .sendFailed c ∈ (w.act mint action).events.drop w.events.length

/-- Which connections count as closed. -/
def closings (w : World) : List Bool :=
  w.ports.map (·.connection.closed)

theorem closings_getElem? (w : World) (c : Nat) :
    w.closings[c]? = (w.ports[c]?).map (·.connection.closed) := by
  simp [closings]

theorem isOpen_eq (w : World) (c : Nat) : w.isOpen c = w.closings[c]?.any (!·) := by
  rw [closings_getElem?, Option.any_map]
  rfl

/-- Closing a connection leaves all others open or closed. -/
theorem isOpen_close (w : World) (c d : Nat) :
    (w.modifyConnection c Connection.close).isOpen d = (w.isOpen d && d != c) := by
  simp only [isOpen, modifyConnection, modifyPort, List.getElem?_modify]
  by_cases hd : c = d
  · subst hd
    cases w.ports[c]? <;> simp [Connection.close]
  · have hne : d ≠ c := fun heq => hd heq.symm
    cases w.ports[d]? <;> simp [hd, hne]

/-- What happens between connections, up to those on which sending failed: none is opened or closed,
and the one that is open and current stays so. -/
structure Keeps (w after : World) (failed : Nat → Prop) : Prop where
  closings : after.closings = w.closings
  unheard : w.registry.listeners = [] → after.registry.listeners = []
  current : ∀ c, w.current? = some c → w.isOpen c = true → after.current? = some c ∨ failed c

namespace Keeps

variable {w after : World} {failed : Nat → Prop}

theorem isOpen (h : Keeps w after failed) (c : Nat) : after.isOpen c = w.isOpen c := by
  rw [isOpen_eq, isOpen_eq, h.closings]

theorem ports_length (h : Keeps w after failed) : after.ports.length = w.ports.length := by
  simpa [World.closings] using congrArg List.length h.closings

theorem of_registry (hclosings : after.closings = w.closings)
    (hregistry : after.registry = w.registry) : Keeps w after failed where
  closings := hclosings
  unheard h := by rw [hregistry]; exact h
  current c hc _ := Or.inl ((congrArg Registry.current hregistry).trans hc)

theorem refl (w : World) (failed : Nat → Prop) : Keeps w w failed :=
  .of_registry rfl rfl

/-- A port is changed, and its connection stays open or closed. -/
theorem modifyPort (h : Keeps w after failed) (c : Nat) (f : Port → Port)
    (hclosed : ∀ port, after.ports[c]? = some port →
      (f port).connection.closed = port.connection.closed) :
    Keeps w (after.modifyPort c f) failed where
  closings := by
    rw [← h.closings]
    refine List.ext_getElem? fun d => ?_
    simp only [closings_getElem?, World.modifyPort, List.getElem?_modify]
    by_cases hd : c = d
    · subst hd
      cases hport : after.ports[c]? with
      | none => rfl
      | some port => simp [hclosed port hport]
    · cases after.ports[d]? <;> simp [hd]
  unheard := h.unheard
  current := h.current

theorem wake (h : Keeps w after failed) (i : Nat) : Keeps w (after.wake i) failed where
  closings := by rw [World.closings, wake_ports]; exact h.closings
  unheard hnone := by rw [wake_registry]; exact h.unheard hnone
  current c hc hopen := by rw [current?, wake_registry]; exact h.current c hc hopen

theorem wake? (h : Keeps w after failed) (i : Option Nat) : Keeps w (after.wake? i) failed := by
  cases i with
  | none => exact h
  | some i => exact h.wake i

end Keeps

/-! ## Actions -/

section

variable {mint : Nat → String} {w after : World} {failed : Nat → Prop}

theorem keeps_deliver (w : World) (c : Nat) (frame : String) :
    Keeps w (w.deliver c frame).1 failed := by
  unfold deliver
  cases hport : w.ports[c]? with
  | none => exact .refl w failed
  | some port =>
      have htaken : Keeps w (w.modifyConnection c fun _ => (port.connection.deliver frame).1)
          failed := by
        refine (Keeps.refl w failed).modifyPort c _ fun other hother => ?_
        obtain rfl := Option.some.inj (hport.symm.trans hother)
        exact Connection.deliver_closed _ frame
      dsimp only
      split
      next => exact htaken
      next => exact htaken.wake? _

theorem keeps_submit (w : World) (body : Json.Members) : Keeps w (w.submit body).1 failed := by
  have hjoined : Keeps w { w with submissions := w.submissions ++ [.fresh body] } failed :=
    .of_registry rfl rfl
  exact hjoined.wake _

theorem keeps_setLink (w : World) (c : Nat) (link : Link) :
    Keeps w (w.setLink c link) failed := by
  have hlinked : Keeps w (w.modifyPort c ({ · with link })) failed :=
    (Keeps.refl w failed).modifyPort c _ fun _ _ => rfl
  unfold setLink
  split
  next => exact hlinked
  next => exact hlinked.wake? _

theorem keeps_cancel (w : World) (i : Nat) : Keeps w (w.cancel i) failed := by
  unfold cancel
  cases w.submissions[i]? with
  | none => exact .refl w failed
  | some s =>
      dsimp only
      split
      next => exact .refl w failed
      next =>
        have hmarked : Keeps w (w.modifySubmission i ({ · with cancelled := true })) failed :=
          .of_registry rfl rfl
        have hwithdrawn := hmarked.modifyPort s.connection
          (fun port => { port with gate := port.gate.withdraw i }) fun _ _ => rfl
        exact hwithdrawn.wake i

theorem foldl_wake_keeps (h : Keeps w after failed) (who : List Nat) :
    Keeps w (who.foldl World.wake after) failed := by
  induction who generalizing after with
  | nil => exact h
  | cons i rest ih => exact ih (h.wake i)

theorem keeps_wait (mint : Nat → String) (w : World) (seconds : Time) :
    Keeps w (w.act mint (.wait seconds)) failed := by
  simp only [act]
  split
  next => exact .refl w failed
  next =>
    have hlater : Keeps w { w with now := w.now + seconds } failed :=
      .of_registry rfl rfl
    exact foldl_wake_keeps hlater _

/-- Taking one connection from the registry leaves any other current. -/
theorem unregister_current {c d : Nat} (h : w.current? = some d) (hd : d ≠ c) :
    (w.unregister c).1.current? = some d := by
  have hne : w.registry.current ≠ some c := fun heq => hd (Option.some.inj (h.symm.trans heq))
  exact (congrArg Registry.current (w.registry.carryOut_unregister_of_ne registryDepth hne)).trans h

/-- With no listeners, none hear of it when a connection is taken from the registry. -/
theorem unregister_unheard (c : Nat) (h : w.registry.listeners = []) :
    (w.unregister c).1.registry.listeners = [] := by
  have hafter : (w.unregister c).1.registry = w.registry.after (.unregister (some c)) :=
    w.registry.carryOut_of_unheard registryDepth _ h
  rw [hafter, Registry.listeners_after]
  exact h

/-- A step of a submission takes a connection that is open from the registry only if the link
refused its task. -/
theorem keeps_resume (mint : Nat → String) (w : World) (i : Nat) :
    Keeps w (w.act mint (.resume i)) (w.SendFails mint (.resume i)) := by
  by_cases hready : i ∈ w.ready
  · cases hs : w.submissions[i]? with
    | none =>
        simp only [act, hready, if_true, resume, hs]
        exact .of_registry rfl rfl
    | some s =>
        have hact : w.act mint (.resume i) = w.resume mint i := if_pos hready
        obtain ⟨c, t, port, news, hmove, hdiffers, _⟩ := resume_moved mint hs
        rw [← hact] at hdiffers
        constructor
        case closings =>
          refine List.ext_getElem? fun d => ?_
          rw [closings_getElem?, closings_getElem?]
          by_cases hd : d = c
          · rw [hd, hdiffers.port, hmove.closed_eq]
          · rw [hdiffers.ports d hd]
        case unheard =>
          intro hnone
          obtain hsame | ⟨hgone, _⟩ := hdiffers.registry
          · rw [hsame]
            exact hnone
          · rw [hgone]
            exact unregister_unheard c hnone
        case current =>
          intro d hd hopen
          obtain hsame | ⟨hgone, _, hlost⟩ := hdiffers.registry
          · exact Or.inl ((congrArg Registry.current hsame).trans hd)
          · by_cases hdc : d = c
            · subst hdc
              obtain hfailed | hclosed := hmove.lost hlost
              · refine Or.inr ?_
                rw [SendFails, hdiffers.events, List.drop_left]
                exact hfailed
              · rw [isOpen_eq, closings_getElem?, hclosed] at hopen
                cases hopen
            · exact Or.inl ((congrArg Registry.current hgone).trans (unregister_current hd hdc))
  · simp only [act, hready, if_false]
    exact .refl w _

end

end World

end DesignBridge
