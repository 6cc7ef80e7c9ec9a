import DesignBridge.Proofs.Json.Body
import DesignBridge.Proofs.Relay.Current
import DesignBridge.Server.Action

/-! # The one live executor

Frames are taken in from an executor that is not closed only while it is the current one: the
newest always is, the one before is closed in the same step, and whoever hangs up is closed and
leaves the registry. A task that its link refuses is the exception: the executor leaves the registry
and is not closed.
-/

namespace DesignBridge.Bridge

/-- Whether an executor is open: frames are taken in from its socket, and its connection does not
count as closed. -/
def isOpen (b : Bridge) (c : Nat) : Bool :=
  b.isRunning c && b.world.isOpen c

/-- Whether the link of an executor refuses, by an action, a task that is sent on it. -/
def SendFails (b : Bridge) (action : BridgeAction) (c : Nat) : Prop :=
  ∃ i, action = .resume i ∧ b.world.SendFails b.setup.supply.taskId (.resume i) c

/-- Whether the link of an executor refused a task somewhere in a history. -/
def SendFailedIn (b : Bridge) (history : List BridgeAction) (c : Nat) : Prop :=
  ∃ before action after, history = before ++ action :: after ∧ (b.play before).SendFails action c

/-! ## What the relay did -/

/-- Which sockets frames are taken in from. -/
def runnings (b : Bridge) : List Bool :=
  b.sockets.map Socket.running

theorem isRunning_eq (b : Bridge) (c : Nat) : b.isRunning c = b.runnings[c]?.any id := by
  rw [runnings, List.getElem?_map, Option.any_map]
  rfl

theorem runnings_detach (b : Bridge) (c : Nat) :
    (b.modifySocket c ({ · with attached := false })).runnings = b.runnings := by
  refine List.ext_getElem? fun d => ?_
  simp only [runnings, modifySocket, List.getElem?_map, List.getElem?_modify]
  cases b.sockets[d]? with
  | none => rfl
  | some s => by_cases hd : c = d <;> simp [hd]

theorem absorb_keeps (b : Bridge) (event : RelayEvent) :
    (b.absorb event).world = b.world ∧ (b.absorb event).runnings = b.runnings := by
  cases event with
  | sent | closed => exact ⟨rfl, rfl⟩
  | sendFailed c => exact ⟨rfl, runnings_detach b c⟩
  | finished i outcome =>
      unfold absorb
      dsimp only
      split <;> exact ⟨rfl, rfl⟩

theorem foldl_absorb_keeps (events : List RelayEvent) (b : Bridge) :
    (events.foldl absorb b).world = b.world ∧ (events.foldl absorb b).runnings = b.runnings := by
  induction events generalizing b with
  | nil => exact ⟨rfl, rfl⟩
  | cons event rest ih =>
      obtain ⟨hworld, hrunnings⟩ := ih (b.absorb event)
      obtain ⟨hworld', hrunnings'⟩ := absorb_keeps b event
      exact ⟨hworld.trans hworld', hrunnings.trans hrunnings'⟩

theorem absorbAll_world (b : Bridge) : b.absorbAll.world = { b.world with events := [] } :=
  (foldl_absorb_keeps b.world.events _).1

theorem absorbAll_runnings (b : Bridge) : b.absorbAll.runnings = b.runnings :=
  (foldl_absorb_keeps b.world.events _).2

/-! ## What an action keeps -/

/-- What happens while no executor comes, up to those on which sending failed: none is opened, and
the one that is open and current stays current while it is open. -/
structure Keeps (b after : Bridge) (failed : Nat → Prop) : Prop where
  sockets : after.sockets.length = b.sockets.length
  ports : after.world.ports.length = b.world.ports.length
  unheard : b.world.registry.listeners = [] → after.world.registry.listeners = []
  isOpen : ∀ c, after.isOpen c = true → b.isOpen c = true
  current : ∀ c, after.isOpen c = true → b.world.current? = some c →
    after.world.current? = some c ∨ failed c

namespace Keeps

variable {b mid after : Bridge} {failed : Nat → Prop}

theorem of_world (hrunnings : after.runnings = b.runnings)
    (hworld : b.world.Keeps after.world failed) : Keeps b after failed := by
  have hopen : ∀ c, after.isOpen c = b.isOpen c := fun c => by
    rw [Bridge.isOpen, Bridge.isOpen, isRunning_eq, isRunning_eq, hrunnings, hworld.isOpen]
  constructor
  case sockets => simpa [runnings] using congrArg List.length hrunnings
  case ports => exact hworld.ports_length
  case unheard => exact hworld.unheard
  case isOpen => exact fun c hc => (hopen c).symm.trans hc
  case current =>
    intro c hc hcurrent
    rw [hopen, Bridge.isOpen, Bool.and_eq_true] at hc
    exact hworld.current c hcurrent hc.2

theorem refl (b : Bridge) (failed : Nat → Prop) : Keeps b b failed :=
  of_world rfl (.refl b.world failed)

theorem trans (h : Keeps b mid failed) (h' : Keeps mid after failed) : Keeps b after failed where
  sockets := h'.sockets.trans h.sockets
  ports := h'.ports.trans h.ports
  unheard hnone := h'.unheard (h.unheard hnone)
  isOpen c hc := h.isOpen c (h'.isOpen c hc)
  current c hc hcurrent :=
    (h.current c (h'.isOpen c hc) hcurrent).elim (h'.current c hc) Or.inr

end Keeps

variable {b : Bridge} {failed : Nat → Prop}

theorem isOpen_endSocket (b : Bridge) (c d : Nat) :
    (b.endSocket c).isOpen d = (b.isOpen d && d != c) := by
  have hworld : (b.endSocket c).world.isOpen d = (b.world.isOpen d && d != c) := by
    rw [← World.isOpen_close]
    unfold endSocket
    dsimp only
    split <;> rfl
  have hrunning : d ≠ c → (b.endSocket c).isRunning d = b.isRunning d := fun hd => by
    simp [endSocket, isRunning, emit, modifySocket, Ne.symm hd]
  rw [isOpen, isOpen, hworld, Bool.and_assoc]
  by_cases hd : d = c
  · simp [hd]
  · rw [hrunning hd]

/-- Whoever hangs up is not open any more, and no one else leaves the registry. -/
theorem keeps_endSocket (b : Bridge) (c : Nat) : Keeps b (b.endSocket c) failed := by
  have hworld : (b.endSocket c).world = (b.world.modifyConnection c Connection.close) ∨
      (b.endSocket c).world = ((b.world.modifyConnection c Connection.close).unregister c).1 := by
    unfold endSocket
    cases b.hasRegistry
    · exact Or.inl rfl
    · exact Or.inr rfl
  constructor
  case sockets => exact List.length_modify ..
  case ports => obtain heq | heq := hworld <;> rw [heq] <;> exact List.length_modify ..
  case unheard =>
    intro hnone
    obtain heq | heq := hworld
    · rw [heq]
      exact hnone
    · rw [heq]
      exact World.unregister_unheard c hnone
  case isOpen =>
    intro d hd
    rw [isOpen_endSocket, Bool.and_eq_true] at hd
    exact hd.1
  case current =>
    intro d hd hcurrent
    rw [isOpen_endSocket, Bool.and_eq_true, bne_iff_ne] at hd
    obtain heq | heq := hworld
    · rw [heq]
      exact Or.inl hcurrent
    · rw [heq]
      exact Or.inl (World.unregister_current hcurrent hd.2)

theorem keeps_takeFrame (b : Bridge) (c : Nat) (frame : String) :
    Keeps b (b.takeFrame c frame) failed := by
  have htaken : Keeps b { b with world := (b.world.deliver c frame).1 } failed :=
    .of_world rfl (World.keeps_deliver b.world c frame)
  unfold takeFrame
  split
  next => exact .refl b failed
  next =>
    dsimp only
    split
    next => exact htaken
    next => exact htaken.trans (keeps_endSocket _ c)

/-- All that an endpoint changes are the states that were issued. -/
theorem react_eq (b : Bridge) (endpoint : Endpoint) (request : Request) :
    ∃ auth issued, (b.react endpoint request).1 = { b with auth, issued } := by
  cases endpoint with
  | publish =>
      simp only [react, withClient]
      split
      next => exact ⟨_, _, rfl⟩
      next =>
        split
        next => split <;> exact ⟨_, _, rfl⟩
        next => exact ⟨_, _, rfl⟩
  | authorize =>
      simp only [react, withClient, authorize]
      split
      next => split <;> exact ⟨_, _, rfl⟩
      next => exact ⟨_, _, rfl⟩
  | callback =>
      simp only [react, withClient, callback]
      split
      next => split <;> exact ⟨_, _, rfl⟩
      next => exact ⟨_, _, rfl⟩
  | task =>
      simp only [react]
      split <;> exact ⟨_, _, rfl⟩
  | alive | health | status => exact ⟨_, _, rfl⟩

theorem keeps_takeRequest (b : Bridge) (request : Request) (site : SiteAnswer) :
    Keeps b (b.takeRequest request site).1 failed := by
  unfold takeRequest
  dsimp only
  split
  next => exact .of_world rfl (.refl b.world failed)
  next =>
    split
    next => exact .of_world rfl (.refl b.world failed)
    next endpoint _ =>
      obtain ⟨auth, issued, hreact⟩ :=
        react_eq { b with requests := b.requests + 1 } endpoint request
      split
      next mid call heq =>
        rw [heq] at hreact
        obtain rfl : mid = _ := hreact
        exact .of_world rfl (.refl b.world failed)
      next mid task heq =>
        rw [heq] at hreact
        obtain rfl : mid = _ := hreact
        exact .of_world rfl (World.keeps_submit b.world task)

theorem keeps_letRelay (b : Bridge) (action : RelayAction)
    (h : b.world.Keeps (b.world.act b.setup.supply.taskId action) failed) :
    Keeps b (b.letRelay action) failed := by
  refine .of_world (absorbAll_runnings _) ?_
  rw [letRelay, absorbAll_world]
  exact ⟨h.closings, h.unheard, h.current⟩

/-! ## Newcomers -/

theorem getElem?_append_of_ne {α : Type} {l : List α} {a : α} {c : Nat} (hc : c ≠ l.length) :
    (l ++ [a])[c]? = l[c]? := by
  obtain hlt | hgt := Nat.lt_or_gt_of_ne hc
  · exact List.getElem?_append_left hlt
  · rw [List.getElem?_eq_none (Nat.le_of_lt hgt), List.getElem?_eq_none]
    simpa using Nat.succ_le_of_lt hgt

theorem supersede_runnings (b : Bridge) (c : Nat) : (b.supersede c).runnings = b.runnings := by
  unfold supersede
  exact (runnings_detach _ c).trans (absorbAll_runnings _)

theorem isOpen_supersede (b : Bridge) (c d : Nat) :
    (b.supersede c).isOpen d = (b.isOpen d && d != c) := by
  have hworld : (b.supersede c).world.isOpen d = (b.world.isOpen d && d != c) := by
    rw [← World.isOpen_close]
    unfold supersede
    dsimp only [modifySocket]
    rw [absorbAll_world]
    dsimp only
    split <;> rfl
  rw [isOpen, isOpen, hworld, isRunning_eq, isRunning_eq, supersede_runnings, Bool.and_assoc]

theorem supersede_world (b : Bridge) (c : Nat) :
    (b.supersede c).world.registry = b.world.registry ∧
      (b.supersede c).world.ports.length = b.world.ports.length := by
  unfold supersede
  dsimp only [modifySocket]
  rw [absorbAll_world]
  dsimp only
  split <;> exact ⟨rfl, List.length_modify ..⟩

theorem isOpen_letIn (hnumbered : b.sockets.length = b.world.ports.length) (peer : String)
    {c : Nat} (hc : c ≠ b.world.ports.length) : (b.letIn peer).isOpen c = b.isOpen c := by
  have hsocket : (b.letIn peer).sockets[c]? = b.sockets[c]? :=
    getElem?_append_of_ne (hnumbered ▸ hc)
  have hport : (b.letIn peer).world.ports[c]? = b.world.ports[c]? := getElem?_append_of_ne hc
  rw [isOpen, isOpen, isRunning, isRunning, World.isOpen, World.isOpen, hsocket, hport]

theorem letIn_registry (hnone : b.world.registry.listeners = []) (peer : String) :
    (b.letIn peer).world.current? = some b.world.ports.length ∧
      (b.letIn peer).world.registry.listeners = [] := by
  have hregistry : (b.letIn peer).world.registry =
      b.world.registry.after (.register (some b.world.ports.length)) :=
    b.world.registry.carryOut_of_unheard World.registryDepth _ hnone
  rw [World.current?, hregistry]
  exact ⟨rfl, hnone⟩

/-! ## Histories -/

/-- Whether every open executor is the current one, up to those on which sending failed. -/
structure Manned (b : Bridge) (failed : Nat → Prop) : Prop where
  numbered : b.sockets.length = b.world.ports.length
  unheard : b.world.registry.listeners = []
  current : ∀ c, b.isOpen c = true → b.world.current? = some c ∨ failed c

theorem Manned.keeps {after : Bridge} {failed' : Nat → Prop} (h : Manned b failed)
    (hkeeps : Keeps b after failed') : Manned after fun c => failed c ∨ failed' c where
  numbered := hkeeps.sockets.trans (h.numbered.trans hkeeps.ports.symm)
  unheard := hkeeps.unheard h.unheard
  current c hc := by
    obtain hcurrent | hfailed := h.current c (hkeeps.isOpen c hc)
    · exact (hkeeps.current c hc hcurrent).imp_right Or.inr
    · exact Or.inr (Or.inl hfailed)

theorem Manned.mono {failed' : Nat → Prop} (h : Manned b failed)
    (himp : ∀ c, failed c → failed' c) : Manned b failed' :=
  ⟨h.numbered, h.unheard, fun c hc => (h.current c hc).imp_right (himp c)⟩

/-- Once a newcomer is let in, of those before only the one that was current need still be
closed. -/
theorem Manned.letIn (h : Manned b failed) (peer : String) {c : Nat}
    (hc : (b.letIn peer).isOpen c = true) :
    (b.letIn peer).world.current? = some c ∨ failed c ∨ b.world.current? = some c := by
  by_cases hnew : c = b.world.ports.length
  · exact Or.inl (hnew ▸ (letIn_registry h.unheard peer).1)
  · rw [isOpen_letIn h.numbered peer hnew] at hc
    exact Or.inr (h.current c hc).symm

theorem Manned.takeOver (h : Manned b failed) (peer : String) :
    Manned (b.takeOver peer) failed := by
  have hunheard := (letIn_registry h.unheard peer).2
  have hnumbered : (b.letIn peer).sockets.length = (b.letIn peer).world.ports.length := by
    show (b.sockets ++ _).length = (b.world.ports ++ _).length
    simp [h.numbered]
  unfold Bridge.takeOver
  cases hprevious : b.world.current? with
  | none =>
      refine ⟨hnumbered, hunheard, fun c hc => ?_⟩
      obtain hcurrent | hfailed | hbefore := h.letIn peer hc
      · exact Or.inl hcurrent
      · exact Or.inr hfailed
      · rw [hprevious] at hbefore
        cases hbefore
  | some previous =>
      obtain ⟨hregistry, hlength⟩ := supersede_world (b.letIn peer) previous
      have hsockets : ((b.letIn peer).supersede previous).sockets.length =
          (b.letIn peer).sockets.length := by
        simpa [runnings] using congrArg List.length (supersede_runnings (b.letIn peer) previous)
      rw [Option.elim_some]
      refine ⟨hsockets.trans (hnumbered.trans hlength.symm), by rw [hregistry]; exact hunheard,
        fun c hc => ?_⟩
      rw [isOpen_supersede, Bool.and_eq_true, bne_iff_ne] at hc
      rw [World.current?, hregistry]
      obtain hcurrent | hfailed | hbefore := h.letIn peer hc.1
      · exact Or.inl hcurrent
      · exact Or.inr hfailed
      · exact absurd (Option.some.inj (hbefore.symm.trans hprevious)) hc.2

theorem Manned.act (h : Manned b failed) (action : BridgeAction) :
    Manned (b.act action) fun c => failed c ∨ b.SendFails action c := by
  cases action with
  | connect peer =>
      simp only [Bridge.act]
      split
      next => exact (h.takeOver peer).mono fun c => Or.inl
      next => exact h.keeps (.of_world rfl (.refl b.world _))
  | frame c text => exact h.keeps (keeps_takeFrame b c text)
  | hangUp c =>
      simp only [Bridge.act]
      split
      next => exact h.keeps (keeps_endSocket b c)
      next => exact h.keeps (.refl b _)
  | request request site => exact h.keeps (keeps_takeRequest b request site)
  | setLink c link => exact h.keeps (keeps_letRelay b _ (World.keeps_setLink b.world c link))
  | cancel i => exact h.keeps (keeps_letRelay b _ (World.keeps_cancel b.world i))
  | resume i =>
      have hstep := keeps_letRelay b _ (World.keeps_resume b.setup.supply.taskId b.world i)
      exact (h.keeps hstep).mono fun c => Or.imp_right fun hfailed => ⟨i, rfl, hfailed⟩
  | wait seconds =>
      refine h.keeps (Keeps.trans (keeps_letRelay b _ ?_) (.of_world rfl (.refl _ _)))
      exact World.keeps_wait b.setup.supply.taskId b.world (seconds.toRat?.getD 0)

theorem SendFails.failedIn {action : BridgeAction} {c : Nat} (h : b.SendFails action c)
    (rest : List BridgeAction) : b.SendFailedIn (action :: rest) c :=
  ⟨[], action, rest, rfl, h⟩

theorem SendFailedIn.cons {action : BridgeAction} {rest : List BridgeAction} {c : Nat}
    (h : (b.act action).SendFailedIn rest c) : b.SendFailedIn (action :: rest) c := by
  obtain ⟨before, later, after, rfl, hfails⟩ := h
  exact ⟨action :: before, later, after, rfl, hfails⟩

theorem Manned.play (h : Manned b failed) (history : List BridgeAction) :
    Manned (b.play history) fun c => failed c ∨ b.SendFailedIn history c := by
  induction history generalizing b failed with
  | nil => exact h.mono fun c => Or.inl
  | cons action rest ih =>
      refine (ih (h.act action)).mono fun c => ?_
      rintro ((hfailed | hfails) | hlater)
      · exact Or.inl hfailed
      · exact Or.inr (hfails.failedIn rest)
      · exact Or.inr hlater.cons

theorem started_manned (setup : BridgeSetup) (env : Environment) (client : SiteClient) :
    Manned (started setup env client) fun _ => False :=
  ⟨rfl, rfl, fun c hc => by simp [started, idle, isOpen, isRunning] at hc⟩

/-- Whatever happens to the bridge, an executor that is open is the current one, unless its link has
refused a task. So of those on which no sending failed no two are open at once, and none that is
open is unregistered. -/
theorem open_executor_current (setup : BridgeSetup) (env : Environment) (client : SiteClient)
    (history : List BridgeAction) :
    let b := started setup env client
    (∀ c, (b.play history).isOpen c = true →
        (b.play history).world.current? = some c ∨ b.SendFailedIn history c) ∧
      ∀ c d, (b.play history).isOpen c = true → (b.play history).isOpen d = true →
        ¬ b.SendFailedIn history c → ¬ b.SendFailedIn history d → c = d := by
  intro b
  have hopen : ∀ c, (b.play history).isOpen c = true →
      (b.play history).world.current? = some c ∨ b.SendFailedIn history c := fun c hc =>
    (((started_manned setup env client).play history).current c hc).imp_right
      fun hfailed => hfailed.resolve_left id
  refine ⟨hopen, fun c d hc hd hcf hdf => ?_⟩
  have hcurrent := (hopen c hc).resolve_right hcf
  exact Option.some.inj (hcurrent.symm.trans ((hopen d hd).resolve_right hdf))

/-- A bridge that was just started, with the settings that hold when no variable is set. -/
def justStarted : Bridge :=
  started ⟨⟨fun _ => "", fun _ => "", ""⟩, "localhost", 8788, .int 10, ["*"]⟩ .empty
    ⟨SiteSettings.load .empty, ⟨"https", "", "api.webflow.com", none, "/v2/", none, none⟩⟩

/-- The one before is closed, though its intake goes on, and the newcomer is current. -/
theorem open_executor_current_superseded :
    let after := justStarted.play [.connect "designer", .connect "successor"]
    after.isRunning 0 = true ∧ after.isOpen 0 = false ∧ after.isOpen 1 = true ∧
      after.world.current? = some 1 := by
  intro after
  have hopen : after.isOpen 1 = true := by decide +kernel
  refine ⟨by decide +kernel, by decide +kernel, hopen, ?_⟩
  refine ((open_executor_current _ _ _ _).1 1 hopen).resolve_right ?_
  rintro ⟨before, action, rest, hhistory, i, rfl, _⟩
  have hmem : BridgeAction.resume i ∈ [.connect "designer", .connect "successor"] := by
    rw [hhistory]
    simp
  simp at hmem

/-- An executor whose link refuses a task leaves the registry and stays open, and the next one does
not close it. -/
theorem refused_executor_stays_open :
    let task : Request := ⟨"POST", "/task", "", [("content-type", "application/json")],
      Json.bytes (.object [("ops", .list [])])⟩
    let refused := justStarted.play [.connect "designer", .setLink 0 (.broken ""),
      .request task (.failed .noClientId), .resume 0]
    refused.isOpen 0 = true ∧ refused.world.current? = none ∧
      (refused.act (.connect "successor")).isOpen 0 = true ∧
      (refused.act (.connect "successor")).isOpen 1 = true := by
  decide +kernel

end DesignBridge.Bridge
