import DesignBridge.Proofs.Relay.Ending
import DesignBridge.Proofs.Server.Executor
import DesignBridge.Proofs.Server.Posting

/-! # What one action does

Seen from its desk, where requests come in and are answered, the bridge does one of four things by
an action: nothing, or it answers a request at once, or it lets one wait for a submission, or it
answers the one that waited for a submission which has ended. The world of the relay changes only by
the relay's own actions.
-/

namespace DesignBridge

/-- The request that an event answers, and with what. -/
def BridgeEvent.answer? : BridgeEvent → Option (Nat × Response)
  | responded number response => some (number, response)
  | _ => none

/-- What the answers to requests go by. -/
structure Desk where
  setup : BridgeSetup
  hasRelay : Bool
  requests : Nat
  pending : List Pending
  answers : List (Nat × Response)

namespace Bridge

/-- All answers that were given, in order. -/
def answers (b : Bridge) : List (Nat × Response) :=
  b.events.filterMap BridgeEvent.answer?

/-- The answers that the request with a number was given. -/
def answersTo (b : Bridge) (number : Nat) : List Response :=
  (b.answers.filter (·.1 == number)).map Prod.snd

/-- The answer to a request whose submission has ended. -/
def answerFor (b : Bridge) (request : Request) (outcome : Outcome) : Response :=
  Cors.share b.setup.origins request (b.concluded outcome)

def desk (b : Bridge) : Desk :=
  ⟨b.setup, b.hasRelay, b.requests, b.pending, b.answers⟩

theorem answerFor_congr {b after : Bridge} (h : after.setup = b.setup) (request : Request)
    (outcome : Outcome) : after.answerFor request outcome = b.answerFor request outcome := by
  simp only [answerFor, concluded, errorReply, h]

/-! ## What the relay did -/

section

variable {b : Bridge}

theorem desk_emit {event : BridgeEvent} (h : event.answer? = none) :
    (b.emit event).desk = b.desk := by
  simp [desk, answers, emit, h]

theorem desk_respond (b : Bridge) (number : Nat) (response : Response) :
    (b.emit (.responded number response)).desk =
      { b.desk with answers := b.answers ++ [(number, response)] } := by
  simp [desk, answers, emit, BridgeEvent.answer?]

theorem desk_absorb {event : RelayEvent} (h : event.isEnd = false) :
    (b.absorb event).desk = b.desk := by
  cases event with
  | sent | closed => exact desk_emit rfl
  | sendFailed => rfl
  | finished => cases h

theorem desk_foldl_absorb {news : List RelayEvent} (h : ∀ event ∈ news, event.isEnd = false) :
    (news.foldl absorb b).desk = b.desk := by
  induction news generalizing b with
  | nil => rfl
  | cons event rest ih =>
      have hrest : (rest.foldl absorb (b.absorb event)).desk = (b.absorb event).desk :=
        ih fun later hlater => h later (List.mem_cons_of_mem _ hlater)
      exact hrest.trans (desk_absorb (h event List.mem_cons_self))

/-- The end of a submission is the answer to whoever waits for it. -/
theorem desk_absorb_finished (b : Bridge) (i : Nat) (outcome : Outcome) :
    (∀ p ∈ b.pending, p.submission ≠ i) ∧ (b.absorb (.finished i outcome)).desk = b.desk ∨
      ∃ p ∈ b.pending, p.submission = i ∧ (b.absorb (.finished i outcome)).desk = { b.desk with
        pending := b.pending.filter (·.submission != i)
        answers := b.answers ++ [(p.number, b.answerFor p.request outcome)] } := by
  unfold absorb
  dsimp only
  split
  next hnone =>
    refine Or.inl ⟨fun p hp hi => ?_, rfl⟩
    simpa [hi] using List.find?_eq_none.mp hnone p hp
  next p hfound =>
    have hi : p.submission = i := by simpa using List.find?_some hfound
    exact Or.inr ⟨p, List.mem_of_find?_eq_some hfound, hi, desk_respond ..⟩

theorem desk_absorbAll (h : ∀ event ∈ b.world.events, event.isEnd = false) :
    b.absorbAll.desk = b.desk :=
  desk_foldl_absorb h

end

/-! ## Four kinds of turns -/

/-- What an action does at the desk. -/
inductive Turn (b after : Bridge) : Prop
  /-- A submission may have ended, but none for which a request waits. -/
  | quiet (hdesk : after.desk = b.desk)
      (hsame : ∀ i, after.world.outcome? i = b.world.outcome? i ∨
        b.world.outcome? i = none ∧ ∀ p ∈ b.pending, p.submission ≠ i)
  | answered (response : Response)
      (hdesk : after.desk = { b.desk with
        requests := b.requests + 1
        answers := b.answers ++ [(b.requests, response)] })
      (hsame : ∀ i, after.world.outcome? i = b.world.outcome? i)
  | posted (request : Request) (body : Json.Members)
      (hdesk : after.desk = { b.desk with
        requests := b.requests + 1
        pending := b.pending ++ [⟨b.world.submissions.length, b.requests, request⟩] })
      (hsame : ∀ i, after.world.outcome? i = b.world.outcome? i)
      (hjoined : after.world.submissions[b.world.submissions.length]? = some (.fresh body))
  | concluded (p : Pending) (outcome : Outcome) (hp : p ∈ b.pending)
      (hdesk : after.desk = { b.desk with
        pending := b.pending.filter (·.submission != p.submission)
        answers := b.answers ++ [(p.number, b.answerFor p.request outcome)] })
      (hbefore : b.world.outcome? p.submission = none)
      (hended : after.world.outcome? p.submission = some outcome)
      (hsame : ∀ j, j ≠ p.submission → after.world.outcome? j = b.world.outcome? j)

/-- What changes nothing at the desk and no submission. -/
structure Quiet (b after : Bridge) : Prop where
  desk : after.desk = b.desk
  submissions : after.world.submissions = b.world.submissions
  silent : after.world.events = []

section

variable {b mid after : Bridge}

theorem Quiet.trans (h : Quiet b mid) (h' : Quiet mid after) : Quiet b after :=
  ⟨h'.desk.trans h.desk, h'.submissions.trans h.submissions, h'.silent⟩

theorem Quiet.turn (h : Quiet b after) : Turn b after ∧ after.world.events = [] :=
  ⟨.quiet h.desk fun i => Or.inl (by rw [World.outcome?, World.outcome?, h.submissions]), h.silent⟩

theorem quiet_emit (hsilent : b.world.events = []) {event : BridgeEvent}
    (h : event.answer? = none) : Quiet b (b.emit event) :=
  ⟨desk_emit h, rfl, hsilent⟩

theorem quiet_endSocket (hsilent : b.world.events = []) (c : Nat) : Quiet b (b.endSocket c) where
  desk := desk_emit rfl
  submissions := by
    unfold endSocket
    dsimp only [emit, modifySocket]
    split <;> rfl
  silent := by
    unfold endSocket
    dsimp only [emit, modifySocket]
    split <;> exact hsilent

theorem quiet_takeFrame (hsilent : b.world.events = []) (c : Nat) (frame : String) :
    Quiet b (b.takeFrame c frame) := by
  have htaken : Quiet b { b with world := (b.world.deliver c frame).1 } :=
    ⟨rfl, World.deliver_submissions .., (World.deliver_events ..).trans hsilent⟩
  unfold takeFrame
  split
  next => exact ⟨rfl, rfl, hsilent⟩
  next =>
    dsimp only
    split
    next => exact htaken
    next => exact htaken.trans (quiet_endSocket htaken.silent c)

theorem quiet_letIn (hsilent : b.world.events = []) (peer : String) : Quiet b (b.letIn peer) :=
  ⟨desk_emit rfl, rfl, hsilent⟩

theorem quiet_supersede (hsilent : b.world.events = []) (c : Nat) : Quiet b (b.supersede c) := by
  unfold supersede
  dsimp only
  constructor
  case desk =>
    refine desk_absorbAll fun event hevent => ?_
    dsimp only at hevent
    split at hevent
    next =>
      rw [World.close, World.emit, World.modifyConnection, World.modifyPort, hsilent] at hevent
      rw [List.mem_singleton.mp hevent]
      rfl
    next =>
      rw [World.modifyConnection, World.modifyPort, hsilent] at hevent
      cases hevent
  case submissions =>
    rw [modifySocket, absorbAll_world]
    dsimp only
    split <;> rfl
  case silent => rw [modifySocket, absorbAll_world]

theorem quiet_takeOver (hsilent : b.world.events = []) (peer : String) :
    Quiet b (b.takeOver peer) := by
  have hin := quiet_letIn hsilent peer
  unfold takeOver
  cases b.world.current? with
  | none => exact hin
  | some previous => exact hin.trans (quiet_supersede hin.silent previous)

/-! ## Requests -/

theorem takeRequest_turn (hsilent : b.world.events = []) (request : Request) (site : SiteAnswer) :
    Turn b (b.takeRequest request site).1 ∧ (b.takeRequest request site).1.world.events = [] := by
  have hanswered : ∀ (auth : AuthStates Float) (issued : Nat) (response : Response),
      Turn b ({ b with requests := b.requests + 1, auth, issued }.emit
        (.responded b.requests response)) := fun auth issued response =>
    .answered response (desk_respond ..) fun _ => rfl
  unfold takeRequest
  dsimp only
  split
  next response _ => exact ⟨hanswered b.auth b.issued response, hsilent⟩
  next =>
    split
    next response _ => exact ⟨hanswered b.auth b.issued _, hsilent⟩
    next endpoint _ =>
      obtain ⟨auth, issued, hreact⟩ :=
        react_eq { b with requests := b.requests + 1 } endpoint request
      split
      next mid call heq =>
        rw [heq] at hreact
        obtain rfl : mid = _ := hreact
        exact ⟨hanswered auth issued _, hsilent⟩
      next mid task heq =>
        rw [heq] at hreact
        obtain rfl : mid = _ := hreact
        refine ⟨.posted request task rfl ?_ ?_, ?_⟩
        · exact (World.outside_submit b.world task).outcome?
        · simp [World.submit]
        · simpa [World.submit] using hsilent

/-! ## Steps of the relay -/

theorem letRelay_turn (hsilent : b.world.events = []) (action : RelayAction) :
    Turn b (b.letRelay action) ∧ (b.letRelay action).world.events = [] := by
  obtain ⟨news, hnews, hcases⟩ := World.act_ends b.setup.supply.taskId b.world action
  rw [hsilent, List.nil_append] at hnews
  have hworld : (b.letRelay action).world =
      { b.world.act b.setup.supply.taskId action with events := [] } := absorbAll_world _
  have houtcome : ∀ i, (b.letRelay action).world.outcome? i =
      (b.world.act b.setup.supply.taskId action).outcome? i := fun i => by rw [hworld]; rfl
  refine ⟨?_, by rw [hworld]⟩
  obtain ⟨hsame, hquiet⟩ | ⟨i, outcome, hends⟩ := hcases
  · refine .quiet (desk_absorbAll ?_) fun i => Or.inl ((houtcome i).trans (hsame i))
    dsimp only
    rwa [hnews]
  · obtain ⟨seen, rfl, hseen⟩ := hends.told
    have hended := (houtcome i).trans hends.ended
    have hothers : ∀ j, j ≠ i → (b.letRelay action).world.outcome? j = b.world.outcome? j :=
      fun j hj => (houtcome j).trans (hends.others j hj)
    -- What was seen before the end leaves the desk as it was.
    have hmid : (seen.foldl absorb { b with world :=
        { b.world.act b.setup.supply.taskId action with events := [] } }).desk = b.desk :=
      desk_foldl_absorb hseen
    generalize heq : seen.foldl absorb { b with world :=
      { b.world.act b.setup.supply.taskId action with events := [] } } = mid at hmid
    have hdesk : (b.letRelay action).desk = (mid.absorb (.finished i outcome)).desk := by
      rw [letRelay, absorbAll, hnews, List.foldl_append, heq]
      rfl
    have hpending : mid.pending = b.pending := congrArg Desk.pending hmid
    have hanswers : mid.answers = b.answers := congrArg Desk.answers hmid
    have hanswer : ∀ request, mid.answerFor request outcome = b.answerFor request outcome :=
      fun request => answerFor_congr (congrArg Desk.setup hmid) request outcome
    rcases desk_absorb_finished mid i outcome with ⟨hnone, hkept⟩ | ⟨p, hp, rfl, hconcluded⟩
    · rw [hpending] at hnone
      refine .quiet (hdesk.trans (hkept.trans hmid)) fun j => ?_
      by_cases hj : j = i
      · exact Or.inr (hj ▸ ⟨hends.before, hnone⟩)
      · exact Or.inl (hothers j hj)
    · rw [hmid, hpending, hanswers, hanswer] at hconcluded
      rw [hpending] at hp
      exact .concluded p outcome hp (hdesk.trans hconcluded) hends.before hended hothers

/-- Time that passes is seen elsewhere only. -/
theorem Turn.withClock (h : Turn b after) (clock : Float) : Turn b { after with clock } := by
  cases h with
  | quiet hdesk hsame => exact .quiet hdesk hsame
  | answered response hdesk hsame => exact .answered response hdesk hsame
  | posted request body hdesk hsame hjoined => exact .posted request body hdesk hsame hjoined
  | concluded p outcome hp hdesk hbefore hended hsame =>
      exact .concluded p outcome hp hdesk hbefore hended hsame

/-- Every action is one turn, and leaves nothing of the relay's events behind. -/
theorem act_turn (hsilent : b.world.events = []) (action : BridgeAction) :
    Turn b (b.act action) ∧ (b.act action).world.events = [] := by
  cases action with
  | connect peer =>
      simp only [act]
      split
      next => exact (quiet_takeOver hsilent peer).turn
      next => exact (quiet_emit hsilent rfl).turn
  | frame c text => exact (quiet_takeFrame hsilent c text).turn
  | hangUp c =>
      simp only [act]
      split
      next => exact (quiet_endSocket hsilent c).turn
      next => exact Quiet.turn ⟨rfl, rfl, hsilent⟩
  | request request site => exact takeRequest_turn hsilent request site
  | setLink | cancel | resume => exact letRelay_turn hsilent _
  | wait seconds =>
      obtain ⟨hturn, hafter⟩ := letRelay_turn hsilent (.wait (seconds.toRat?.getD 0))
      exact ⟨hturn.withClock _, hafter⟩

end

end Bridge

/-! ## What becomes of the relay -/

/-- What the relay's world can become by actions of some kind, whatever is done with its events. -/
inductive World.Via (mint : Nat → String) (allowed : RelayAction → Prop) (w : World) : World → Prop
  | refl : Via mint allowed w w
  | act {mid : World} (h : Via mint allowed w mid) (action : RelayAction)
      (hallowed : allowed action) : Via mint allowed w (mid.act mint action)
  | withEvents {mid : World} (h : Via mint allowed w mid) (events : List RelayEvent) :
      Via mint allowed w { mid with events }

theorem World.Via.keeps {mint : Nat → String} {allowed : RelayAction → Prop} {w after : World}
    (h : Via mint allowed w after) {P : World → Prop}
    (hact : ∀ v action, allowed action → P v → P (v.act mint action))
    (hevents : ∀ (v : World) events, P v → P { v with events }) (hw : P w) : P after := by
  induction h with
  | refl => exact hw
  | act _ action hallowed ih => exact hact _ action hallowed ih
  | withEvents _ events ih => exact hevents _ events ih

/-- The relay's actions that an action of the bridge can bring about. -/
def BridgeAction.Prompts (action : BridgeAction) : RelayAction → Prop
  | .submit body => Task.Arrives body
  | .cancel i => action = .cancel i
  | .resume i => action = .resume i
  | _ => True

namespace Bridge

section

variable {mint : Nat → String} {w : World} {action : BridgeAction} {b : Bridge}

theorem via_close {mid : World} (h : w.Via mint action.Prompts mid) (c : Nat) :
    w.Via mint action.Prompts (mid.modifyConnection c Connection.close) :=
  (h.act (.close c 0 "") trivial).withEvents mid.events

theorem via_endSocket (h : w.Via mint action.Prompts b.world) (c : Nat) :
    w.Via mint action.Prompts (b.endSocket c).world := by
  unfold endSocket
  dsimp only [emit, modifySocket]
  split
  next => exact (via_close h c).act (.unregister c) trivial
  next => exact via_close h c

theorem via_takeFrame (h : w.Via mint action.Prompts b.world) (c : Nat) (frame : String) :
    w.Via mint action.Prompts (b.takeFrame c frame).world := by
  have htaken : w.Via mint action.Prompts (b.world.deliver c frame).1 :=
    h.act (.deliver c frame) trivial
  unfold takeFrame
  split
  next => exact h
  next =>
    dsimp only
    split
    next => exact htaken
    next => exact via_endSocket htaken c

theorem via_takeOver (h : w.Via mint action.Prompts b.world) (peer : String) :
    w.Via mint action.Prompts (b.takeOver peer).world := by
  have hin : w.Via mint action.Prompts (b.letIn peer).world := h.act (.connect peer) trivial
  unfold takeOver
  cases b.world.current? with
  | none => exact hin
  | some previous =>
      rw [Option.elim_some, supersede, modifySocket, absorbAll_world]
      dsimp only
      split
      next => exact (hin.act (.close previous _ _) trivial).withEvents []
      next => exact (via_close hin previous).withEvents []

theorem via_takeRequest (h : w.Via mint action.Prompts b.world) (request : Request)
    (site : SiteAnswer) : w.Via mint action.Prompts (b.takeRequest request site).1.world := by
  unfold takeRequest
  dsimp only
  split
  next => exact h
  next =>
    split
    next => exact h
    next endpoint _ =>
      obtain ⟨auth, issued, hreact⟩ :=
        react_eq { b with requests := b.requests + 1 } endpoint request
      split
      next mid call heq =>
        rw [heq] at hreact
        obtain rfl : mid = _ := hreact
        exact h
      next mid task heq =>
        have harrives := (arrives_of_react (congrArg Prod.snd heq)).2.2
        rw [heq] at hreact
        obtain rfl : mid = _ := hreact
        exact h.act (.submit task) harrives

/-- Whatever the bridge does, its relay's world changes by the relay's actions only. -/
theorem act_via (b : Bridge) (action : BridgeAction) :
    b.world.Via b.setup.supply.taskId action.Prompts (b.act action).world := by
  have hrelay : ∀ relayed, action.Prompts relayed →
      b.world.Via b.setup.supply.taskId action.Prompts (b.letRelay relayed).world := by
    intro relayed hprompts
    rw [letRelay, absorbAll_world]
    exact (World.Via.refl.act relayed hprompts).withEvents []
  cases action with
  | connect peer =>
      simp only [act]
      split
      next => exact via_takeOver .refl peer
      next => exact .refl
  | frame c text => exact via_takeFrame .refl c text
  | hangUp c =>
      simp only [act]
      split
      next => exact via_endSocket .refl c
      next => exact .refl
  | request request site => exact via_takeRequest .refl request site
  | setLink c link => exact hrelay (.setLink c link) trivial
  | cancel i => exact hrelay (.cancel i) rfl
  | resume i => exact hrelay (.resume i) rfl
  | wait seconds => exact hrelay (.wait _) trivial

end

end Bridge

end DesignBridge
