import DesignBridge.Proofs.Relay.Registering
import DesignBridge.Proofs.Server.Turn

/-! # The report on an executor

The report on the bridge tells since when an executor is connected. It always can: the relay calls
the registry with handles only, so the time of the last connect is set just if someone is current.
-/

namespace DesignBridge

namespace World

variable {mint : Nat → String} {w : World}

theorem setNow_registry (w : World) (t : Time) : (w.setNow t).registry = w.registry := by
  have hwoken : ∀ (who : List Nat) (v : World), (who.foldl wake v).registry = v.registry := by
    intro who
    induction who with
    | nil => exact fun v => rfl
    | cons i rest ih => exact fun v => (ih (v.wake i)).trans (wake_registry v i)
  exact hwoken (w.due t) { w with now := t }

/-- All that an action does to the registry is one call, if that, and it names a handle. -/
theorem act_registry (mint : Nat → String) (w : World) (action : RelayAction) :
    (w.act mint action).registry = w.registry ∨ ∃ call : Registry.Call Nat, call.isNamed = true ∧
      (w.act mint action).registry = (w.registry.carryOut registryDepth call).1 := by
  cases action with
  | connect peer => exact .inr ⟨.register (some w.ports.length), rfl, rfl⟩
  | register c => exact .inr ⟨.register (some c), rfl, rfl⟩
  | unregister c => exact .inr ⟨.unregister (some c), rfl, rfl⟩
  | submit body => exact .inl (wake_registry _ _)
  | close c code reason => exact .inl rfl
  | deliver c frame =>
      refine .inl ?_
      simp only [act, deliver]
      split
      next => rfl
      next =>
        split
        next => rfl
        next => exact wake?_registry _ _
  | setLink c link =>
      refine .inl ?_
      simp only [act, setLink]
      split
      next => rfl
      next => exact wake?_registry _ _
  | cancel i =>
      refine .inl ?_
      simp only [act, cancel]
      split
      next => rfl
      next =>
        split
        next => rfl
        next => exact wake_registry _ _
  | wait seconds =>
      refine .inl ?_
      simp only [act]
      split
      next => rfl
      next => exact setNow_registry _ _
  | resume i =>
      simp only [act]
      split
      next =>
        cases hs : w.submissions[i]? with
        | none => exact .inl (by simp only [resume, hs])
        | some s =>
            obtain ⟨c, _, _, _, _, hdiffers, _⟩ := resume_moved mint hs
            obtain hsame | ⟨hgone, _⟩ := hdiffers.registry
            · exact .inl hsame
            · exact .inr ⟨.unregister (some c), rfl, hgone⟩
      next => exact .inl rfl

theorem act_attested (h : w.registry.Attested) (action : RelayAction) :
    (w.act mint action).registry.Attested := by
  obtain hsame | ⟨call, hnamed, hcall⟩ := act_registry mint w action
  · exact hsame ▸ h
  · exact hcall ▸ h.carryOut registryDepth hnamed

end World

namespace Bridge

variable {b : Bridge}

theorem act_attested (h : b.world.registry.Attested) (action : BridgeAction) :
    (b.act action).world.registry.Attested :=
  (b.act_via action).keeps (P := fun w => w.registry.Attested)
    (fun _ relayed _ hv => World.act_attested hv relayed) (fun _ _ hv => hv) h

theorem play_attested (h : b.world.registry.Attested) (history : List BridgeAction) :
    (b.play history).world.registry.Attested := by
  induction history generalizing b with
  | nil => exact h
  | cons action rest ih => exact ih (act_attested h action)

theorem executorReport_ok (h : b.world.registry.Attested) :
    ∃ report, b.executorReport = .ok report := by
  unfold executorReport
  dsimp only
  split
  next hmissing =>
    rw [h.stamped, Option.isSome_map, Bool.and_eq_true] at hmissing
    cases hcurrent : b.world.registry.current <;>
      simp [World.current?, hcurrent] at hmissing
  next => exact ⟨_, rfl⟩

/-- Whatever listeners do, what a registry answers is right as long as all calls name handles, and
every call is answered. The report on the bridge finds the time that it tells. -/
theorem registry_lawful_and_reported {H : Type} [DecidableEq H] (depth : Nat)
    (history : List (Registry.Action H))
    (hnamed : ∀ event ∈ (Registry.Chronicle.fresh.play depth history).log, event.isNamed = true)
    (setup : BridgeSetup) (env : Environment) (client : SiteClient)
    (actions : List BridgeAction) :
    let s := Registry.Chronicle.fresh.play depth history
    s.Lawful ∧
      s.log.filterMap Registry.Event.outer? = history.filterMap Registry.Action.call? ∧
      ∃ report, ((started setup env client).play actions).executorReport = .ok report :=
  ⟨Registry.Chronicle.fresh_lawful.play depth history hnamed,
    Registry.Chronicle.outer_play _ depth history,
    executorReport_ok (play_attested Registry.empty_attested actions)⟩

/-- One listener fails, and one registers a second handle when it hears of the first, which is then
superseded. -/
theorem registry_lawful_and_reported_superseded :
    let broken : Registry.Habit String := ⟨"broken", fun _ _ => .error "exploded"⟩
    let chain : Registry.Habit String :=
      ⟨"chain", fun _ current => .ok (if current = some "first" then [some "second"] else [])⟩
    let history : List (Registry.Action String) :=
      [.add broken.listener, .add chain.listener, .call (.register (some "first")),
        .call (.unregister (some "first")), .call .look]
    let s := Registry.Chronicle.fresh.play 1 history
    let after := justStarted.play [.connect "designer"]
    (∀ event ∈ s.log, event.isNamed = true) ∧ s.Lawful ∧
      s.log = [.registered 0 [] (some "first") none,
        .heard ⟨0, "broken", ⟨0, none, some "first"⟩⟩, .heard ⟨1, "chain", ⟨0, none, some "first"⟩⟩,
        .registered 3 [1] (some "second") (some "first"),
        .heard ⟨0, "broken", ⟨3, some "first", some "second"⟩⟩,
        .heard ⟨1, "chain", ⟨3, some "first", some "second"⟩⟩,
        .unregistered 6 [] (some "first") false, .looked [] (some "second") true] ∧
      after.world.current? = some 0 ∧ ∃ report, after.executorReport = .ok report := by
  intro broken chain history s after
  have hnamed : ∀ event ∈ s.log, event.isNamed = true := by decide
  obtain ⟨hlawful, _, hreport⟩ :=
    registry_lawful_and_reported 1 history hnamed _ _ _ [.connect "designer"]
  exact ⟨hnamed, hlawful, by decide, by decide +kernel, hreport⟩

end Bridge

end DesignBridge
