import DesignBridge.Proofs.Relay.Delivery
import DesignBridge.Proofs.Relay.Exchange
import DesignBridge.Proofs.Session.Tasks

/-! # How submissions end

Of all its steps one ends a submission, and the last event of that step tells how. The submission of
a task ends with a reply to give back, because no executor was reached, because it was cancelled, or
because no clock can count to its deadline.
-/

namespace DesignBridge

/-- How a submission has ended, once it has. -/
def Phase.outcome? : Phase → Option Outcome
  | finished outcome => some outcome
  | _ => none

theorem Phase.outcome?_eq_some {phase : Phase} {outcome : Outcome} :
    phase.outcome? = some outcome ↔ phase = .finished outcome := by
  cases phase <;> simp [outcome?]

/-- Whether an event tells that a submission has ended. -/
def RelayEvent.isEnd : RelayEvent → Bool
  | finished .. => true
  | _ => false

/-- What events tell about the end of a submission: nothing, or last of all how it has ended. -/
inductive Tells (i : Nat) : Option Outcome → List RelayEvent → Prop
  | nothing {news : List RelayEvent} (hnews : ∀ event ∈ news, event.isEnd = false) :
      Tells i none news
  | ending (seen : List RelayEvent) (hseen : ∀ event ∈ seen, event.isEnd = false)
      (outcome : Outcome) : Tells i (some outcome) (seen ++ [.finished i outcome])

/-- The ways in which the submission of a task can end. -/
inductive Outcome.OfTask (patience : Patience) : Outcome → Prop
  | answered {outcome : Outcome} {reply : Json.Members} (hreply : outcome.reply? = some reply) :
      OfTask patience outcome
  | noPeer (reason : NoPeer) : OfTask patience (.noPeer reason)
  | cancelled : OfTask patience .cancelled
  | overlong (hpatience : patience = .overlong) : OfTask patience .overlong

section

variable {mint : Nat → String} {w : World} {i c : Nat} {s t : Submission} {port after : Port}
  {before then_ : Option Port} {phase : Phase} {news : List RelayEvent} {outcome : Outcome}

theorem Entry.tells (h : Entry w i c s port phase after news) : Tells i phase.outcome? news := by
  cases h with
  | replaced | unmeasured | overlong | busy | closed => exact .ending [] (by simp) _
  | broken => exact .ending [.sendFailed c] (by simp [RelayEvent.isEnd]) _
  | late => exact .ending [.sent c s.payload] (by simp [RelayEvent.isEnd]) _
  | stalled => exact .nothing (by simp)
  | sent => exact .nothing (by simp [RelayEvent.isEnd])

theorem Ending.not_isEnd {waiter : Nat} (h : Ending w s port waiter outcome news) :
    ∀ event ∈ news, event.isEnd = false := by
  cases h <;> simp [RelayEvent.isEnd]

/-- The events of a step tell whether the submission has ended by it. -/
theorem Move.tells (h : Move mint w i c s before t then_ news) (hs : s.phase.outcome? = none) :
    Tells i t.phase.outcome? news := by
  cases h with
  | rested => exact hs ▸ .nothing (by simp)
  | joined => exact Submission.settle_phase mint w.minted c s ▸ .nothing (by simp)
  | rearmed => exact .nothing (by simp)
  | sent => exact .nothing (by simp [RelayEvent.isEnd])
  | abandoned | alone | unopened | withdrew | overdue => exact .ending [] (by simp) _
  | entered _ _ _ _ hentry | called _ _ _ _ hentry => exact hentry.tells
  | ended _ hending => exact .ending _ hending.not_isEnd _

/-- A submission that has ended lets nothing more be seen. -/
theorem Move.silent (h : Move mint w i c s before t then_ news)
    (hphase : s.phase = .finished outcome) : news = [] := by
  cases h with
  | rested | joined | rearmed => rfl
  | ended _ hending =>
      have hwaiter := hending.waiter?
      rw [hphase] at hwaiter
      cases hwaiter
  | abandoned hold | alone hold | unopened hold | entered hold | withdrew hold | called hold
  | sent hold | overdue hold =>
      rw [hphase] at hold
      cases hold

/-! ## The ways to end -/

theorem Entry.ofTask (h : Entry w i c s port phase after news) (htask : s.Tasked)
    (hbusy : phase ≠ .finished .busy) (hphase : phase = .finished outcome) :
    outcome.OfTask w.patience := by
  cases h with
  | replaced | closed | broken =>
      obtain rfl := Phase.finished.inj hphase
      exact .noPeer _
  | unmeasured _ htype =>
      obtain ⟨items, hitems⟩ := htask.operations
      rw [hitems] at htype
      simp [unmeasuredType?, Json.asNumber?] at htype
  | overlong _ hpatience =>
      obtain rfl := Phase.finished.inj hphase
      exact .overlong hpatience
  | busy => exact absurd rfl hbusy
  | late =>
      obtain rfl := Phase.finished.inj hphase
      exact .answered rfl
  | stalled | sent => cases hphase

theorem Ending.ofTask {waiter : Nat} (h : Ending w s port waiter outcome news)
    (hbusy : outcome ≠ .busy) : outcome.OfTask w.patience := by
  cases h with
  | interrupted | cancelled => exact .cancelled
  | broken => exact .noPeer _
  | late | replied | invalid | timedOut => exact .answered rfl
  | busy => exact absurd rfl hbusy

/-- A step that ends the submission of a task ends it in one of the ways that there are. -/
theorem Move.ofTask (h : Move mint w i c s before t then_ news) (hs : s.Arrived)
    (hopen : s.phase.outcome? = none) (hbusy : t.phase ≠ .finished .busy)
    (hphase : t.phase = .finished outcome) : outcome.OfTask w.patience := by
  cases h with
  | rested =>
      rw [hphase] at hopen
      cases hopen
  | joined =>
      rw [Submission.settle_phase] at hphase
      cases hphase
  | sent | rearmed => cases hphase
  | abandoned | withdrew =>
      obtain rfl := Phase.finished.inj hphase
      exact .cancelled
  | alone | unopened =>
      obtain rfl := Phase.finished.inj hphase
      exact .noPeer _
  | overdue =>
      obtain rfl := Phase.finished.inj hphase
      exact .answered rfl
  | entered _ _ _ _ hentry =>
      exact hentry.ofTask (Submission.settle_tasked mint w.minted c hs.body) hbusy hphase
  | called hqueued _ _ _ hentry =>
      exact hentry.ofTask (hs.tasked (by simp [hqueued]) (by simp [hqueued])) hbusy hphase
  | ended _ hending =>
      obtain rfl := Phase.finished.inj hphase
      exact hending.ofTask fun heq => hbusy (congrArg Phase.finished heq)

/-- Only a submission that is marked as cancelled ends so, and no step marks one. -/
theorem Move.unmarked (h : Move mint w i c s before t then_ news) (hs : s.cancelled = false)
    (hopen : s.phase ≠ .finished .cancelled) :
    t.cancelled = false ∧ t.phase ≠ .finished .cancelled := by
  have hentered : ∀ {u : Submission} {p q : Port}, Entry w i c u p t.phase q news →
      t.phase ≠ .finished .cancelled := by
    intro u p q hentry hphase
    rw [hphase] at hentry
    cases hentry
  cases h with
  | rested => exact ⟨hs, hopen⟩
  | abandoned _ hcancelled | withdrew _ _ hcancelled =>
      rw [hs] at hcancelled
      cases hcancelled
  | alone | sent | rearmed | overdue => exact ⟨by simp [hs], by simp⟩
  | unopened => exact ⟨(Submission.settle_cancelled ..).trans hs, by simp⟩
  | joined => exact ⟨(Submission.settle_cancelled ..).trans hs, by simp [Submission.settle_phase]⟩
  | entered _ _ _ _ hentry => exact ⟨(Submission.settle_cancelled ..).trans hs, hentered hentry⟩
  | called _ _ _ _ hentry => exact ⟨hs, hentered hentry⟩
  | ended _ hending =>
      refine ⟨hs, fun hphase => ?_⟩
      obtain rfl := Phase.finished.inj hphase
      cases hending with
      | interrupted _ hcancelled | cancelled _ _ hcancelled =>
          rw [hs] at hcancelled
          cases hcancelled

end

namespace World

/-- How the submission with a number has ended, if there is one and it has. -/
def outcome? (w : World) (i : Nat) : Option Outcome :=
  w.submissions[i]?.bind (·.phase.outcome?)

theorem outcome?_of_submission {w : World} {i : Nat} {s : Submission}
    (hs : w.submissions[i]? = some s) : w.outcome? i = s.phase.outcome? := by
  simp [outcome?, hs]

theorem deliver_events (w : World) (c : Nat) (frame : String) :
    (w.deliver c frame).1.events = w.events := by
  unfold deliver
  split
  next => rfl
  next =>
    dsimp only
    split <;> simp [modifyConnection, modifyPort]

theorem deliver_submissions (w : World) (c : Nat) (frame : String) :
    (w.deliver c frame).1.submissions = w.submissions := by
  unfold deliver
  split
  next => rfl
  next =>
    dsimp only
    split <;> simp [modifyConnection, modifyPort]

section

variable (mint : Nat → String) {w after : World} {action : RelayAction}

/-- What is seen of an action that is no step of a submission is no end. -/
theorem act_not_isEnd (w : World)
    (hother : ∀ i s, action = .resume i → i ∈ w.ready → w.submissions[i]? ≠ some s) :
    ∃ news, (w.act mint action).events = w.events ++ news ∧
      ∀ event ∈ news, event.isEnd = false := by
  have hquiet : ∀ after : World, after.events = w.events →
      ∃ news, after.events = w.events ++ news ∧ ∀ event ∈ news, event.isEnd = false :=
    fun after h => ⟨[], by simp [h], by simp⟩
  cases action with
  | resume i =>
      refine hquiet _ ?_
      simp only [act]
      split
      next hready =>
        cases hs : w.submissions[i]? with
        | none => simp [resume, hs]
        | some s => exact absurd hs (hother i s rfl hready)
      next => rfl
  | close c code reason => exact ⟨[.closed c code reason], rfl, by simp [RelayEvent.isEnd]⟩
  | connect | register | unregister => exact hquiet _ rfl
  | submit body => exact hquiet _ (by simp [act, submit])
  | deliver c frame => exact hquiet _ (deliver_events w c frame)
  | setLink c link =>
      refine hquiet _ ?_
      simp only [act, setLink]
      split <;> simp [modifyPort]
  | cancel i =>
      refine hquiet _ ?_
      simp only [act, cancel]
      split
      next => rfl
      next => split <;> simp [modifyPort, modifySubmission]
  | wait seconds =>
      have hwake : ∀ (who : List Nat) (v : World), (who.foldl wake v).events = v.events := by
        intro who
        induction who with
        | nil => exact fun _ => rfl
        | cons i rest ih => exact fun v => (ih (v.wake i)).trans (wake_events v i)
      refine hquiet _ ?_
      simp only [act]
      split
      next => rfl
      next => exact hwake _ _

theorem Outside.outcome? (h : Outside w action after) (i : Nat) :
    after.outcome? i = w.outcome? i := by
  cases hs : w.submissions[i]? with
  | some s =>
      obtain ⟨cancelled, hafter⟩ := h.submission i s hs
      rw [outcome?_of_submission hafter, outcome?_of_submission hs]
  | none =>
      have hbefore : w.outcome? i = none := by simp [World.outcome?, hs]
      rw [hbefore]
      cases ht : after.submissions[i]? with
      | none => simp [World.outcome?, ht]
      | some t =>
          obtain ⟨body, _, rfl⟩ := h.joined i t ht hs
          exact outcome?_of_submission ht

/-- What the end of a submission by an action looks like: it had not ended before, the last event
tells how it has, and no other submission ends. -/
structure EndsBy (w after : World) (news : List RelayEvent) (i : Nat) (outcome : Outcome) :
    Prop where
  before : w.outcome? i = none
  ended : after.outcome? i = some outcome
  others : ∀ j, j ≠ i → after.outcome? j = w.outcome? j
  told : ∃ seen, news = seen ++ [.finished i outcome] ∧ ∀ event ∈ seen, event.isEnd = false

variable {mint} in
theorem Moved.ends {i : Nat} {s : Submission} (h : Moved mint w after i s)
    (hs : w.submissions[i]? = some s) :
    ∃ news, after.events = w.events ++ news ∧
      ((∀ j, after.outcome? j = w.outcome? j) ∧ (∀ event ∈ news, event.isEnd = false) ∨
        ∃ outcome, EndsBy w after news i outcome) := by
  obtain ⟨c, t, port', news, hmove, hdiffers, _⟩ := h
  refine ⟨news, hdiffers.events, ?_⟩
  have hbefore := outcome?_of_submission hs
  have hafter := outcome?_of_submission hdiffers.submission
  have hothers : ∀ j, j ≠ i → after.outcome? j = w.outcome? j := fun j hj => by
    rw [World.outcome?, World.outcome?, hdiffers.submissions j hj]
  have hsame : after.outcome? i = w.outcome? i → ∀ j, after.outcome? j = w.outcome? j :=
    fun hi j => if hj : j = i then hj ▸ hi else hothers j hj
  cases hold : s.phase.outcome? with
  | some outcome =>
      have hphase := Phase.outcome?_eq_some.mp hold
      obtain rfl := hmove.eq_of_finished hphase
      exact Or.inl ⟨hsame (hafter.trans hbefore.symm), by simp [hmove.silent hphase]⟩
  | none =>
      have htells := hmove.tells hold
      generalize hnew : t.phase.outcome? = new at htells
      cases htells with
      | nothing hnews =>
          rw [hnew] at hafter
          rw [hold] at hbefore
          exact Or.inl ⟨hsame (hafter.trans hbefore.symm), hnews⟩
      | ending seen hseen outcome =>
          exact Or.inr ⟨outcome, hbefore.trans hold, hafter.trans hnew, hothers, seen, rfl, hseen⟩

/-- By an action no submission ends, or one does and that is seen. -/
theorem act_ends (w : World) (action : RelayAction) :
    ∃ news, (w.act mint action).events = w.events ++ news ∧
      ((∀ i, (w.act mint action).outcome? i = w.outcome? i) ∧
          (∀ event ∈ news, event.isEnd = false) ∨
        ∃ i outcome, EndsBy w (w.act mint action) news i outcome) := by
  by_cases hstep : ∃ i s, action = .resume i ∧ i ∈ w.ready ∧ w.submissions[i]? = some s
  · obtain ⟨i, s, rfl, hready, hs⟩ := hstep
    have hact : w.act mint (.resume i) = w.resume mint i := if_pos hready
    rw [hact]
    obtain ⟨news, hnews, hends⟩ := (resume_moved mint hs).ends hs
    exact ⟨news, hnews, hends.imp_right fun hends => ⟨i, hends⟩⟩
  · have houtside := (act_cases mint w action).resolve_left fun ⟨i, s, haction, hready, hs, _⟩ =>
      hstep ⟨i, s, haction, hready, hs⟩
    obtain ⟨news, hnews, hquiet⟩ := act_not_isEnd mint w fun i s haction hready hs =>
      hstep ⟨i, s, haction, hready, hs⟩
    exact ⟨news, hnews, Or.inl ⟨houtside.outcome?, hquiet⟩⟩

/-! ## Worlds of tasks -/

/-- What holds of a world in which every submission brings a task. -/
structure OfTasks (w : World) : Prop where
  orderly : w.Orderly
  awake : w.Awake
  neverBusy : w.NeverBusy
  tasks : w.Tasks
  ends : ∀ i outcome, w.outcome? i = some outcome → outcome.OfTask w.patience

theorem OfTasks.act (h : w.OfTasks)
    (hbody : ∀ body, action = .submit body → Task.Arrives body) : (w.act mint action).OfTasks := by
  have hbusy := act_neverBusy mint w action h.orderly h.neverBusy
  obtain ⟨horderly, hawake⟩ := act_awake mint w action ⟨h.orderly, h.awake⟩
  refine ⟨horderly, hawake, hbusy, h.tasks.act mint hbody, fun i outcome hended => ?_⟩
  rcases act_cases mint w action with ⟨j, s, _, _, hs, hmoved⟩ | houtside
  · obtain ⟨c, t, port', news, hmove, hdiffers, _⟩ := hmoved
    rw [hdiffers.patience]
    by_cases hi : i = j
    · subst hi
      rw [outcome?_of_submission hdiffers.submission, Phase.outcome?_eq_some] at hended
      cases hold : s.phase.outcome? with
      | some earlier =>
          obtain rfl := hmove.eq_of_finished (Phase.outcome?_eq_some.mp hold)
          refine h.ends i outcome ?_
          rw [outcome?_of_submission hs, Phase.outcome?_eq_some]
          exact hended
      | none => exact hmove.ofTask (h.tasks i s hs) hold (hbusy i t hdiffers.submission) hended
    · refine h.ends i outcome ?_
      rwa [World.outcome?, hdiffers.submissions i hi] at hended
  · rw [houtside.patience]
    exact h.ends i outcome ((houtside.outcome? i).symm.trans hended)

theorem Orderly.withEvents (h : w.Orderly) (events : List RelayEvent) :
    Orderly { w with events } :=
  fun c => (h c).imp fun _ hc => ⟨hc.exchange, hc.there, hc.serves⟩

/-- Nothing of that depends on what was seen. -/
theorem OfTasks.withEvents (h : w.OfTasks) (events : List RelayEvent) :
    OfTasks { w with events } where
  orderly := h.orderly.withEvents events
  awake := h.awake
  neverBusy := h.neverBusy
  tasks := h.tasks
  ends := h.ends

theorem fresh_ofTasks (patience : Patience) : (fresh patience).OfTasks where
  orderly := fresh_orderly patience
  awake i s deadline waiter frame hs := by simp [fresh] at hs
  neverBusy i s hs := by simp [fresh] at hs
  tasks i s hs := by simp [fresh] at hs
  ends i outcome hended := by simp [World.outcome?, fresh] at hended

/-- Whether the submission with a number was not cancelled so far. -/
def Unmarked (w : World) (i : Nat) : Prop :=
  ∀ s, w.submissions[i]? = some s → s.cancelled = false ∧ s.phase ≠ .finished .cancelled

theorem Unmarked.act {i : Nat} (h : w.Unmarked i) (hother : action ≠ .cancel i) :
    (w.act mint action).Unmarked i := by
  intro t ht
  rcases act_cases mint w action with ⟨j, s, _, _, hs, hmoved⟩ | houtside
  · obtain ⟨c, t', port', news, hmove, hdiffers, _⟩ := hmoved
    by_cases hi : i = j
    · subst hi
      obtain rfl := Option.some.inj (hdiffers.submission.symm.trans ht)
      exact hmove.unmarked (h s hs).1 (h s hs).2
    · exact h t ((hdiffers.submissions i hi).symm.trans ht)
  · cases hs : w.submissions[i]? with
    | none =>
        obtain ⟨body, _, rfl⟩ := houtside.joined i t ht hs
        exact ⟨rfl, Phase.noConfusion⟩
    | some s =>
        obtain ⟨cancelled, hafter⟩ := houtside.submission i s hs
        have hkept := (houtside.cancelled i s t hs ht).1 hother
        obtain rfl := Option.some.inj (ht.symm.trans hafter)
        exact ⟨hkept.trans (h s hs).1, (h s hs).2⟩

/-! ## Replies at hand -/

/-- Whether a submission has a reply at hand that it returns with its next step. -/
structure Returns (w : World) (i : Nat) (reply : Json.Members) : Prop where
  orderly : w.Orderly
  ready : i ∈ w.ready
  takesUp : ∃ s waiter frame, w.TakesUp i s waiter frame reply

variable {i : Nat} {reply : Json.Members}

theorem Returns.resume (h : w.Returns i reply) :
    (w.act mint (.resume i)).outcome? i = some (.replied reply) := by
  obtain ⟨s, waiter, frame, htakes⟩ := h.takesUp
  obtain ⟨t, ht, hphase⟩ := htakes.resume mint h.ready
  rw [outcome?_of_submission ht, Phase.outcome?_eq_some]
  exact hphase

theorem Returns.act (h : w.Returns i reply) (hother : action ≠ .resume i) :
    (w.act mint action).Returns i reply := by
  obtain ⟨s, waiter, frame, htakes⟩ := h.takesUp
  obtain ⟨t, hnext, hready⟩ := htakes.act mint h.ready h.orderly hother
  exact ⟨act_orderly mint w action h.orderly, hready, t, waiter, frame, hnext⟩

theorem Returns.withEvents (h : w.Returns i reply) (events : List RelayEvent) :
    Returns { w with events } i reply := by
  obtain ⟨s, waiter, frame, htakes⟩ := h.takesUp
  exact ⟨h.orderly.withEvents events, h.ready, s, waiter, frame, htakes.submission, htakes.awaits,
    htakes.answered, htakes.fits⟩

/-- A frame that a submission expects while its waiter is armed is for it. -/
theorem Expects.answers {s : Submission} {deadline : Option Time} {waiter : Nat} {port : Port}
    {frame : String} (h : w.Expects i s deadline waiter port frame reply) (horderly : w.Orderly)
    (hawaiting : port.connection.isAwaiting = true) : w.Answers s.connection frame i waiter := by
  have hexchange := exchanges_of_awaiting h.submission h.awaits
  obtain ⟨port', hport, hholds⟩ := horderly.holds hexchange
  obtain rfl := Option.some.inj (h.reached.symm.trans hport)
  exact ⟨hexchange, ⟨port, h.reached, h.opened, hholds.isAwaiting_iff.mp hawaiting⟩, h.regular⟩

/-- A frame that comes in for a submission that waits, and fits, is the reply that it returns. -/
theorem returns_of_answers {s : Submission} {deadline : Option Time} {waiter : Nat} {frame : String}
    (horderly : w.Orderly) (hs : w.submissions[i]? = some s)
    (hawaits : s.phase = .awaiting deadline waiter)
    (hanswers : w.Answers s.connection frame i waiter)
    (hfits : classify s.taskId frame = .fitting reply) :
    (w.deliver s.connection frame).1.Returns i reply := by
  obtain ⟨_, hreply, hready⟩ := hanswers.deliver horderly hs hawaits
  obtain ⟨cancelled, hafter⟩ := (outside_deliver w s.connection frame).submission i s hs
  exact ⟨(outside_deliver w s.connection frame).orderly horderly, hready,
    _, waiter, frame, hafter, ⟨deadline, hawaits⟩, hreply, hfits⟩

end

end World

end DesignBridge
