import DesignBridge.Proofs.Relay.Underway
import Mathlib.Data.List.Induction

/-! # Deadlines

The deadline of an exchange is settled when the submission sets out, and nothing moves it: neither
heartbeats nor stale replies, nor how long the sending takes. A submission times out at its deadline
or later, never before. Whoever still waits when its deadline has passed can go on, and its next
step ends it; so where the clock stands still as long as anyone can go on, an exchange whose task is
sent has ended at its deadline.
-/

namespace DesignBridge

/-- The phases behind the sending. -/
inductive Phase.IsSent : Phase → Prop
  | awaiting (deadline : Option Time) (waiter : Nat) : IsSent (.awaiting deadline waiter)
  | finished (outcome : Outcome) : IsSent (.finished outcome)

instance : DecidablePred Phase.IsSent
  | .fresh | .queued | .sending .. => isFalse nofun
  | .awaiting deadline waiter => isTrue (.awaiting deadline waiter)
  | .finished outcome => isTrue (.finished outcome)

instance (s : Submission) : Decidable s.HasPassed :=
  match h : s.phase with
  | .fresh => isFalse fun hs => hs.1 h
  | .queued => isFalse fun hs => hs.2 h
  | .sending .. | .awaiting .. | .finished _ => isTrue ⟨by simp [h], by simp [h]⟩

/-- How far a submission can have come whose exchange has a deadline: the exchange goes on with that
deadline, or it has ended, by timing out only once the deadline has passed. -/
inductive Phase.Timed (w : World) (due : Option Time) : Phase → Prop
  | sending (waiter : Nat) : Timed w due (.sending due waiter)
  | awaiting (waiter : Nat) : Timed w due (.awaiting due waiter)
  | finished {outcome : Outcome} (hlate : outcome = .timedOut → w.isPast due = true) :
      Timed w due (.finished outcome)

section

variable {mint : Nat → String} {w : World} {i c : Nat} {s t : Submission} {port after : Port}
  {before then_ : Option Port} {phase : Phase} {news : List RelayEvent} {due : Option Time}

/-- Behind the gate the deadline is settled. -/
theorem Entry.timed (h : Entry w i c s port phase after news) :
    phase.Timed w (w.patience.deadline? w.now) := by
  cases h with
  | replaced | unmeasured | overlong | busy | closed | broken => exact .finished (by simp)
  | late _ _ _ _ hpast => exact .finished fun _ => hpast
  | stalled => exact .sending _
  | sent => exact .awaiting _

/-- A submission that comes past the gate by a step has its deadline settled by that step. -/
theorem Move.sets_due (h : Move mint w i c s before t then_ news) (hs : ¬ s.HasPassed)
    (ht : t.HasPassed) : t.phase.Timed w (w.patience.deadline? w.now) := by
  cases h with
  | rested => exact absurd ht hs
  | joined => exact absurd (Submission.settle_phase mint w.minted c s) ht.2
  | abandoned | alone | unopened | withdrew => exact .finished (by simp)
  | entered _ _ _ _ hentry | called _ _ _ _ hentry => exact hentry.timed
  | sent hphase | rearmed hphase | overdue hphase =>
      exact absurd ⟨by simp [hphase], by simp [hphase]⟩ hs
  | ended _ hending =>
      have hwaiter := hending.waiter?
      refine absurd ⟨fun hphase => ?_, fun hphase => ?_⟩ hs <;>
        simp [hphase, Phase.waiter?] at hwaiter

/-- From then on no step changes it. -/
theorem Move.keeps_due (h : Move mint w i c s before t then_ news) (hs : s.phase.Timed w due) :
    t.phase.Timed w due := by
  cases h with
  | rested => exact hs
  | abandoned hphase | alone hphase | unopened hphase | joined hphase | entered hphase
  | withdrew hphase | called hphase =>
      rw [hphase] at hs
      cases hs
  | sent hphase =>
      rw [hphase] at hs
      cases hs
      exact .awaiting _
  | rearmed hphase =>
      rw [hphase] at hs
      cases hs
      exact .awaiting _
  | overdue hphase _ _ _ _ hpast =>
      rw [hphase] at hs
      cases hs
      exact .finished fun _ => hpast
  | ended _ hending =>
      refine .finished fun hlate => ?_
      cases hending with
      | late hphase _ _ hpast | timedOut hphase _ _ hpast =>
          rw [hphase] at hs
          cases hs
          exact hpast
      | _ => cases hlate

/-- A step of a submission that waits although its deadline has passed ends it. -/
theorem Move.ends_overdue (h : Move mint w i c s (some port) t then_ news)
    {deadline : Option Time} {waiter : Nat} (hawaits : s.phase = .awaiting deadline waiter)
    (hpast : w.isPast deadline = true) : t.isFinished = true := by
  cases h with
  | rested _ hrests =>
      have hrest := hrests port rfl
      simp only [Submission.Rests, hawaits, hpast, Bool.true_eq_false, and_false] at hrest
  | rearmed hphase _ _ _ _ htime =>
      rw [hawaits] at hphase
      cases hphase
      rw [hpast] at htime
      cases htime
  | overdue | ended => rfl
  | abandoned hphase | alone hphase | joined hphase | entered hphase | withdrew hphase
  | called hphase | sent hphase =>
      rw [hawaits] at hphase
      cases hphase

/-- Whoever waits after a step has time left. -/
theorem Move.inTime (h : Move mint w i c s before t then_ news) (hport : before.isSome = true)
    {deadline : Option Time} {waiter : Nat} (hawaits : t.phase = .awaiting deadline waiter) :
    w.isPast deadline = false := by
  have hentered : ∀ {u : Submission} {p q : Port}, Entry w i c u p t.phase q news →
      w.isPast deadline = false := by
    intro u p q hentry
    rw [hawaits] at hentry
    cases hentry
    assumption
  cases h with
  | rested _ hrests =>
      obtain ⟨port, rfl⟩ := Option.isSome_iff_exists.mp hport
      have hrest := hrests port rfl
      simp only [Submission.Rests, hawaits] at hrest
      exact hrest.2.2
  | joined =>
      rw [Submission.settle_phase] at hawaits
      cases hawaits
  | entered _ _ _ _ hentry | called _ _ _ _ hentry => exact hentered hentry
  | sent _ _ _ _ hpast | rearmed _ _ _ _ _ hpast =>
      cases hawaits
      exact hpast
  | abandoned | alone | unopened | withdrew | overdue | ended => cases hawaits

/-- What is late stays late. -/
theorem World.isPast_mono {later : World} (hnow : w.now ≤ later.now) (h : w.isPast due = true) :
    later.isPast due = true := by
  cases hlater : later.isPast due with
  | true => rfl
  | false => rw [← isPast_of_le hnow hlater, h]

theorem Phase.Timed.mono {later : World} (h : phase.Timed w due) (hnow : w.now ≤ later.now) :
    phase.Timed later due := by
  cases h with
  | sending => exact .sending _
  | awaiting => exact .awaiting _
  | finished hlate => exact .finished fun heq => World.isPast_mono hnow (hlate heq)

/-- What is sent stays sent. -/
theorem Move.keeps_sent (h : Move mint w i c s before t then_ news) (hs : s.phase.IsSent) :
    t.phase.IsSent := by
  cases h with
  | rested => exact hs
  | abandoned hphase | alone hphase | unopened hphase | joined hphase | entered hphase
  | withdrew hphase | called hphase | sent hphase =>
      rw [hphase] at hs
      cases hs
  | rearmed => exact .awaiting _ _
  | overdue | ended => exact .finished _

end

namespace World

/-- Whether a submission gets past the gate by its next step, so that its exchange begins: until
then it has not started or stands in line. -/
structure SetsOut (mint : Nat → String) (w : World) (i : Nat) : Prop where
  before : ∃ s, w.submissions[i]? = some s ∧ ¬ s.HasPassed
  after : ∃ t, (w.act mint (.resume i)).submissions[i]? = some t ∧ t.HasPassed

instance (mint : Nat → String) (w : World) (i : Nat) : Decidable (SetsOut mint w i) :=
  decidable_of_iff
    ((w.submissions[i]?).any (fun s => decide (¬ s.HasPassed)) = true ∧
      ((w.act mint (.resume i)).submissions[i]?).any (fun t => decide t.HasPassed) = true)
    (by
      simp only [Option.any_eq_true, decide_eq_true_eq]
      exact ⟨fun ⟨hbefore, hafter⟩ => ⟨hbefore, hafter⟩, fun h => ⟨h.before, h.after⟩⟩)

/-- Whether some time can pass: no one can go on, and no deadline comes before. -/
def mayPass (w : World) (seconds : Time) : Bool :=
  w.ready.isEmpty &&
    w.submissions.all fun s => (deadline? s).all fun t => decide (w.now + seconds ≤ t)

/-- Whether an action leaves everyone the time to do what is due. -/
def permits (w : World) : RelayAction → Bool
  | .wait seconds => decide (seconds ≤ 0) || w.mayPass seconds
  | _ => true

/-- Whether in a history time only passes when it can. So it goes where timers go off when they are
due and nothing that can be done is put off. -/
def isPunctual (mint : Nat → String) (w : World) : List RelayAction → Bool
  | [] => true
  | action :: rest => w.permits action && isPunctual mint (w.act mint action) rest

section

variable {mint : Nat → String} {w : World} {i : Nat} {s : Submission} {due : Option Time}
  {action : RelayAction}

/-! ## The clock -/

/-- What waking someone leaves alone, waking many does. -/
theorem foldl_wake_eq {α : Type} (field : World → α) (hfield : ∀ v j, field (wake v j) = field v)
    (who : List Nat) (v : World) : field (who.foldl wake v) = field v := by
  induction who generalizing v with
  | nil => rfl
  | cons j rest ih => exact (ih (v.wake j)).trans (hfield v j)

theorem mem_ready_foldl_wake {who : List Nat} {v : World} (h : i ∈ v.ready ∨ i ∈ who) :
    i ∈ (who.foldl wake v).ready := by
  induction who generalizing v with
  | nil => exact h.resolve_right List.not_mem_nil
  | cons j rest ih =>
      apply ih
      rw [mem_ready_wake]
      rcases h with hready | hwho
      · exact Or.inl (Or.inl hready)
      · rcases List.mem_cons.mp hwho with rfl | hrest
        · exact Or.inl (Or.inr rfl)
        · exact Or.inr hrest

/-- Only waiting moves the clock. -/
theorem act_now (mint : Nat → String) (w : World) (hwait : ∀ seconds, action ≠ .wait seconds) :
    (w.act mint action).now = w.now := by
  cases action with
  | connect | register | unregister | close => rfl
  | submit body => exact wake_now _ _
  | deliver c frame =>
      simp only [act, deliver]
      split
      next => rfl
      next =>
        split
        next => rfl
        next => exact wake?_now _ _
  | setLink c link =>
      simp only [act, setLink]
      split
      next => rfl
      next => exact wake?_now _ _
  | cancel i =>
      simp only [act, cancel]
      split
      next => rfl
      next =>
        split
        next => rfl
        next => exact wake_now _ _
  | resume i =>
      simp only [act]
      split
      next =>
        cases hs : w.submissions[i]? with
        | none => simp [resume, hs]
        | some s =>
            obtain ⟨_, _, _, _, _, hdiffers, _⟩ := resume_moved mint hs
            exact hdiffers.now
      next => rfl
  | wait seconds => exact absurd rfl (hwait seconds)

/-- While time passes no submission changes, and whoever's deadline is reached can go on. -/
theorem act_wait (mint : Nat → String) (w : World) {seconds : Time} (hpos : ¬ seconds ≤ 0) :
    (w.act mint (.wait seconds)).now = w.now + seconds ∧
      (w.act mint (.wait seconds)).submissions = w.submissions ∧
        ∀ i ∈ w.due (w.now + seconds), i ∈ (w.act mint (.wait seconds)).ready := by
  have hact : w.act mint (.wait seconds) = w.setNow (w.now + seconds) := if_neg hpos
  rw [hact]
  exact ⟨foldl_wake_eq World.now wake_now _ _, foldl_wake_eq World.submissions wake_submissions _ _,
    fun i hi => mem_ready_foldl_wake (Or.inr hi)⟩

theorem mem_due {deadline : Option Time} {waiter : Nat} (hs : w.submissions[i]? = some s)
    (hawaits : s.phase = .awaiting deadline waiter) {t : Time} (ht : deadline.any (· ≤ t) = true) :
    i ∈ w.due t := by
  have hlt : i < w.submissions.length := (List.getElem?_eq_some_iff.mp hs).1
  have hdeadline : deadline? s = deadline := by simp [deadline?, hawaits]
  unfold due
  rw [List.mem_filter, List.mem_range, hs, Option.bind_some, hdeadline]
  exact ⟨hlt, ht⟩

/-! ## Whoever is late can go on -/

/-- Whoever waits although its deadline has passed can go on. -/
def Alert (w : World) : Prop :=
  ∀ (i : Nat) (s : Submission) deadline waiter, w.submissions[i]? = some s →
    s.phase = .awaiting deadline waiter → w.isPast deadline = true → i ∈ w.ready

/-- Whoever waits after a step that it has taken itself has time left. -/
theorem Moved.inTime {after : World} (h : Moved mint w after i s) (horderly : after.Orderly)
    {t : Submission} (ht : after.submissions[i]? = some t) {deadline : Option Time} {waiter : Nat}
    (hawaits : t.phase = .awaiting deadline waiter) : w.isPast deadline = false := by
  obtain ⟨c, t', port', news, hmove, hdiffers, _⟩ := h
  obtain rfl := Option.some.inj (hdiffers.submission.symm.trans ht)
  obtain ⟨port, hport, _⟩ := horderly.holds (exchanges_of_awaiting ht hawaits)
  rw [hmove.connection_eq (congrArg Phase.waiter? hawaits), hdiffers.port] at hport
  exact hmove.inTime (by rw [← hmove.isSome_eq, hport]; rfl) hawaits

theorem act_alert (mint : Nat → String) (w : World) (action : RelayAction)
    (h : w.Orderly ∧ w.Alert) : (w.act mint action).Orderly ∧ (w.act mint action).Alert := by
  obtain ⟨horderly, halert⟩ := h
  have hafter := act_orderly mint w action horderly
  refine ⟨hafter, ?_⟩
  intro j t deadline waiter ht hawaits hpast
  by_cases hwait : ∃ seconds, action = .wait seconds
  · obtain ⟨seconds, rfl⟩ := hwait
    by_cases hpos : seconds ≤ 0
    · have hact : w.act mint (.wait seconds) = w := if_pos hpos
      rw [hact] at ht hpast ⊢
      exact halert j t deadline waiter ht hawaits hpast
    · obtain ⟨hnow, hsubmissions, hready⟩ := act_wait mint w hpos
      rw [hsubmissions] at ht
      apply hready
      apply mem_due ht hawaits
      rwa [isPast, hnow] at hpast
  · have hnow := act_now mint w fun seconds heq => hwait ⟨seconds, heq⟩
    have hpast : w.isPast deadline = true := by rwa [isPast, hnow] at hpast
    rcases act_cases mint w action with ⟨i, s, _, _, _, hmoved⟩ | houtside
    · by_cases hj : j = i
      · subst hj
        rw [hmoved.inTime hafter ht hawaits] at hpast
        cases hpast
      · obtain ⟨_, _, _, _, _, hdiffers, _⟩ := hmoved
        rw [hdiffers.submissions j hj] at ht
        exact hdiffers.ready j (halert j t deadline waiter ht hawaits hpast) hj
    · cases hs : w.submissions[j]? with
      | none =>
          obtain ⟨body, _, rfl⟩ := houtside.joined j t ht hs
          cases hawaits
      | some s =>
          obtain ⟨cancelled, hsame⟩ := houtside.submission j s hs
          obtain rfl := Option.some.inj (ht.symm.trans hsame)
          exact houtside.ready j (halert j s deadline waiter hs hawaits hpast) (by simp [hs])

theorem play_alert (mint : Nat → String) (patience : Patience) (history : List RelayAction) :
    ((fresh patience).play mint history).Alert := by
  refine (play_induction (act_alert mint) ⟨fresh_orderly patience, ?_⟩ history).2
  intro i s deadline waiter hs
  simp [fresh] at hs

/-! ## Deadlines stay -/

/-- What the steps of a submission keep, and what passing time does not undo, every action keeps. -/
theorem act_keeps {P : World → Phase → Prop}
    (hmove : ∀ {w c s before t then_ news}, Move mint w i c s before t then_ news →
      P w s.phase → P w t.phase)
    (hmono : ∀ {w later : World} {phase}, w.now ≤ later.now → P w phase → P later phase)
    (action : RelayAction) (hs : w.submissions[i]? = some s) (h : P w s.phase) :
    ∃ t, (w.act mint action).submissions[i]? = some t ∧ P (w.act mint action) t.phase := by
  have hnow := now_le_act mint w action
  rcases act_cases mint w action with ⟨j, u, _, _, hu, hmoved⟩ | houtside
  · obtain ⟨_, t, _, _, hstep, hdiffers, _⟩ := hmoved
    by_cases hj : i = j
    · subst hj
      obtain rfl := Option.some.inj (hs.symm.trans hu)
      exact ⟨t, hdiffers.submission, hmono hnow (hmove hstep h)⟩
    · exact ⟨s, (hdiffers.submissions i hj).trans hs, hmono hnow h⟩
  · obtain ⟨cancelled, hafter⟩ := houtside.submission i s hs
    exact ⟨_, hafter, hmono hnow h⟩

theorem play_keeps {P : World → Phase → Prop}
    (hmove : ∀ {w c s before t then_ news}, Move mint w i c s before t then_ news →
      P w s.phase → P w t.phase)
    (hmono : ∀ {w later : World} {phase}, w.now ≤ later.now → P w phase → P later phase)
    (rest : List RelayAction) (hs : w.submissions[i]? = some s) (h : P w s.phase) :
    ∃ t, (w.play mint rest).submissions[i]? = some t ∧ P (w.play mint rest) t.phase := by
  induction rest generalizing w s with
  | nil => exact ⟨s, hs, h⟩
  | cons action rest ih =>
      obtain ⟨t, ht, hafter⟩ := act_keeps hmove hmono action hs h
      exact ih ht hafter

/-- Whatever happens, a submission keeps the deadline that it has. -/
theorem play_timed (mint : Nat → String) (rest : List RelayAction)
    (hs : w.submissions[i]? = some s) (h : s.phase.Timed w due) :
    ∃ t, (w.play mint rest).submissions[i]? = some t ∧
      t.phase.Timed (w.play mint rest) due :=
  play_keeps (fun hmove => hmove.keeps_due) (fun hnow htimed => htimed.mono hnow) rest hs h

theorem play_sent (mint : Nat → String) (rest : List RelayAction)
    (hs : w.submissions[i]? = some s) (h : s.phase.IsSent) :
    ∃ t, (w.play mint rest).submissions[i]? = some t ∧ t.phase.IsSent :=
  play_keeps (fun hmove => hmove.keeps_sent) (fun _ => id) rest hs h

/-- A submission that is past the gate after an action was so before, or sets out by it. -/
theorem act_setsOut {t : Submission} (ht : (w.act mint action).submissions[i]? = some t)
    (hpassed : t.HasPassed) :
    (∃ s, w.submissions[i]? = some s ∧ s.HasPassed) ∨ action = .resume i ∧ SetsOut mint w i := by
  rcases act_cases mint w action with ⟨j, s, rfl, _, hs, hmoved⟩ | houtside
  · by_cases hj : i = j
    · subst hj
      by_cases hbefore : s.HasPassed
      · exact Or.inl ⟨s, hs, hbefore⟩
      · exact Or.inr ⟨rfl, ⟨s, hs, hbefore⟩, t, ht, hpassed⟩
    · obtain ⟨_, _, _, _, _, hdiffers, _⟩ := hmoved
      exact Or.inl ⟨t, (hdiffers.submissions i hj).symm.trans ht, hpassed⟩
  · cases hs : w.submissions[i]? with
    | none =>
        obtain ⟨body, _, rfl⟩ := houtside.joined i t ht hs
        exact absurd rfl hpassed.1
    | some s =>
        obtain ⟨cancelled, hsame⟩ := houtside.submission i s hs
        obtain rfl := Option.some.inj (ht.symm.trans hsame)
        exact Or.inl ⟨s, rfl, hpassed⟩

/-- Whoever is past the gate has set out at some moment before. -/
theorem exists_setsOut (mint : Nat → String) (patience : Patience) (history : List RelayAction)
    (hs : ((fresh patience).play mint history).submissions[i]? = some s) (hpassed : s.HasPassed) :
    ∃ before rest, history = before ++ .resume i :: rest ∧
      SetsOut mint ((fresh patience).play mint before) i := by
  induction history using List.reverseRecOn generalizing s with
  | nil => simp [fresh] at hs
  | append_singleton history action ih =>
      rw [play_snoc] at hs
      rcases act_setsOut hs hpassed with ⟨u, hu, hbefore⟩ | ⟨rfl, hout⟩
      · obtain ⟨before, rest, rfl, hout⟩ := ih hu hbefore
        exact ⟨before, rest ++ [action], by simp, hout⟩
      · exact ⟨history, [], rfl, hout⟩

/-- By setting out a submission gets its deadline. -/
theorem SetsOut.timed (h : SetsOut mint w i) :
    ∃ t, (w.act mint (.resume i)).submissions[i]? = some t ∧
      t.phase.Timed (w.act mint (.resume i)) (w.patience.deadline? w.now) := by
  obtain ⟨s, hs, hbefore⟩ := h.before
  obtain ⟨t, ht, hafter⟩ := h.after
  refine ⟨t, ht, ?_⟩
  by_cases hready : i ∈ w.ready
  · have hact : w.act mint (.resume i) = w.resume mint i := if_pos hready
    obtain ⟨_, t', _, _, hmove, hdiffers, _⟩ := resume_moved mint hs
    rw [← hact] at hdiffers
    obtain rfl := Option.some.inj (hdiffers.submission.symm.trans ht)
    exact (hmove.sets_due hbefore hafter).mono (now_le_act mint w _)
  · -- Who cannot go on does not get past the gate.
    have hact : w.act mint (.resume i) = w := if_neg hready
    rw [hact, hs] at ht
    exact absurd (Option.some.inj ht ▸ hafter) hbefore

/-! ## Keeping time -/

/-- Whether the clock has not gone past the deadline up to which a submission waits. -/
def OnTime (w : World) (i : Nat) : Prop :=
  ∀ (s : Submission) t waiter, w.submissions[i]? = some s → s.phase = .awaiting (some t) waiter →
    w.now ≤ t

theorem OnTime.wait (h : w.OnTime i) {seconds : Time}
    (hmay : w.permits (.wait seconds) = true) :
    (w.act mint (.wait seconds)).OnTime i := by
  intro s t waiter hs hawaits
  by_cases hpos : seconds ≤ 0
  · have hact : w.act mint (.wait seconds) = w := if_pos hpos
    rw [hact] at hs ⊢
    exact h s t waiter hs hawaits
  · obtain ⟨hnow, hsubmissions, _⟩ := act_wait mint w hpos
    rw [hsubmissions] at hs
    rw [permits, decide_eq_false hpos, Bool.false_or, mayPass, Bool.and_eq_true,
      List.all_eq_true] at hmay
    have hbound := hmay.2 s (List.mem_of_getElem? hs)
    rw [deadline?, hawaits, Option.all_some, decide_eq_true_eq] at hbound
    rw [hnow]
    exact hbound

theorem SetsOut.onTime (h : SetsOut mint w i) : w.OnTime i := by
  intro s t waiter hs hawaits
  obtain ⟨u, hu, hbefore⟩ := h.before
  obtain rfl := Option.some.inj (hs.symm.trans hu)
  exact absurd ⟨by simp [hawaits], by simp [hawaits]⟩ hbefore

/-- Where time only passes when it can, the clock does not go past a deadline. -/
theorem play_onTime (rest : List RelayAction) (horderly : w.Orderly) (h : w.OnTime i)
    (hpunctual : isPunctual mint w rest = true) : (w.play mint rest).OnTime i := by
  induction rest generalizing w with
  | nil => exact h
  | cons action rest ih =>
      rw [isPunctual, Bool.and_eq_true] at hpunctual
      obtain ⟨hfirst, hrest⟩ := hpunctual
      have hafter := act_orderly mint w action horderly
      refine ih hafter ?_ hrest
      by_cases hwait : ∃ seconds, action = .wait seconds
      · obtain ⟨seconds, rfl⟩ := hwait
        exact h.wait hfirst
      · intro t due waiter ht hawaits
        rw [act_now mint w fun seconds heq => hwait ⟨seconds, heq⟩]
        rcases act_cases mint w action with ⟨j, s, _, _, _, hmoved⟩ | houtside
        · by_cases hj : i = j
          · subst hj
            have htime := hmoved.inTime hafter ht hawaits
            rw [isPast, Option.any_some, decide_eq_false_iff_not] at htime
            exact Rat.le_of_lt (Rat.not_le.mp htime)
          · obtain ⟨_, _, _, _, _, hdiffers, _⟩ := hmoved
            rw [hdiffers.submissions i hj] at ht
            exact h t due waiter ht hawaits
        · cases hs : w.submissions[i]? with
          | none =>
              obtain ⟨body, _, rfl⟩ := houtside.joined i t ht hs
              cases hawaits
          | some s =>
              obtain ⟨cancelled, hsame⟩ := houtside.submission i s hs
              obtain rfl := Option.some.inj (ht.symm.trans hsame)
              exact h s due waiter hs hawaits

/-- Whoever waits when its deadline has passed can go on, and its next step ends its exchange. -/
theorem ends_overdue (mint : Nat → String) (patience : Patience) (history : List RelayAction)
    (hw : w = (fresh patience).play mint history) (hs : w.submissions[i]? = some s) {waiter : Nat}
    (hawaits : s.phase = .awaiting due waiter) (hpast : w.isPast due = true) :
    i ∈ w.ready ∧
      ∃ t, (w.act mint (.resume i)).submissions[i]? = some t ∧ t.isFinished = true := by
  subst hw
  have hready := play_alert mint patience history i s due waiter hs hawaits hpast
  have hact : ((fresh patience).play mint history).act mint (.resume i) =
      ((fresh patience).play mint history).resume mint i := if_pos hready
  obtain ⟨port, hport, _⟩ :=
    (play_orderly mint patience history).holds (exchanges_of_awaiting hs hawaits)
  obtain ⟨c, t, port', news, hmove, hdiffers, _⟩ := resume_moved mint hs
  rw [← hact] at hdiffers
  obtain rfl := hmove.connection_of_awaiting hawaits
  rw [hport] at hmove
  exact ⟨hready, t, hdiffers.submission, hmove.ends_overdue hawaits hpast⟩

/-- A submission past the gate has set out at some moment. From then on its deadline is settled, as
long after that moment as a reply is waited for. As long as its exchange goes on it has that
deadline, whatever is delivered; it times out at the deadline or later, however long the sending
takes. Whoever waits when the deadline has passed can go on, and its next step ends the exchange. So
where time only passes when it can, an exchange whose task was sent has ended when the clock is past
the deadline, and also when the clock is at the deadline and the submission cannot go on. -/
theorem deadlines_kept (mint : Nat → String) (patience : Patience) (history : List RelayAction)
    {w : World} (hw : w = (fresh patience).play mint history)
    (hs : w.submissions[i]? = some s) (hpassed : s.HasPassed) :
    (∃ before rest, history = before ++ .resume i :: rest ∧
      SetsOut mint ((fresh patience).play mint before) i) ∧
    ∀ before rest, history = before ++ .resume i :: rest → ∀ start,
      start = (fresh patience).play mint before → SetsOut mint start i → ∀ due,
        due = patience.deadline? start.now →
          (∀ deadline waiter, s.phase = .sending deadline waiter ∨
            s.phase = .awaiting deadline waiter → deadline = due) ∧
          (s.phase = .finished .timedOut → ∃ t, due = some t ∧ t ≤ w.now) ∧
          (∀ deadline waiter, s.phase = .awaiting deadline waiter → w.isPast due = true →
            i ∈ w.ready ∧
              ∃ t, (w.act mint (.resume i)).submissions[i]? = some t ∧ t.isFinished = true) ∧
          (isPunctual mint start (.resume i :: rest) = true →
            ∀ mid more, rest = mid ++ more → ∀ u,
              (start.play mint (.resume i :: mid)).submissions[i]? = some u → u.phase.IsSent →
              ∀ t, due = some t → t < w.now ∨ t = w.now ∧ i ∉ w.ready → s.isFinished = true) := by
  refine ⟨exists_setsOut mint patience history (hw ▸ hs) hpassed, ?_⟩
  rintro before rest rfl start hstart hout due hdue
  have hpatience : start.patience = patience := hstart ▸ play_patience mint patience before
  have horderly : start.Orderly := hstart ▸ play_orderly mint patience before
  have hplay : w = (start.act mint (.resume i)).play mint rest := by
    rw [hw, play_append, hstart, play_cons]
  -- The submission as it is now has the deadline that it got by setting out.
  obtain ⟨first, hfirst, htimed⟩ := hout.timed
  rw [hpatience, ← hdue] at htimed
  have hnow : s.phase.Timed w due := by
    obtain ⟨t, ht, hlater⟩ := play_timed mint rest hfirst htimed
    rw [← hplay] at ht hlater
    obtain rfl := Option.some.inj (hs.symm.trans ht)
    exact hlater
  refine ⟨?_, ?_, ?_, ?_⟩
  · rintro deadline waiter (hphase | hphase) <;> rw [hphase] at hnow <;> cases hnow <;> rfl
  · intro hphase
    rw [hphase] at hnow
    cases hnow with
    | finished hlate =>
        obtain ⟨t, htime, hpast⟩ := (Option.any_eq_true _ _).mp (hlate rfl)
        exact ⟨t, htime, of_decide_eq_true hpast⟩
  · intro deadline waiter hphase hpast
    rw [hphase] at hnow
    cases hnow
    exact ends_overdue mint patience _ hw hs hphase hpast
  · rintro hpunctual mid more rfl u hu hsent t rfl hover
    have hsent : s.phase.IsSent := by
      obtain ⟨v, hv, hstill⟩ := play_sent mint more hu hsent
      rw [play_cons, ← play_append, ← hplay, hs] at hv
      exact Option.some.inj hv ▸ hstill
    generalize hphase : s.phase = phase at hnow hsent
    cases hsent with
    | finished => simp [Submission.isFinished, hphase]
    | awaiting deadline waiter =>
        cases hnow
        have htime : w.OnTime i := by
          rw [hplay]
          exact play_onTime (.resume i :: (mid ++ more)) horderly hout.onTime hpunctual
        rcases hover with hlt | ⟨rfl, hwaits⟩
        · exact absurd (htime s t waiter hs hphase) (Rat.not_le.mpr hlt)
        · refine absurd ?_ hwaits
          subst hw
          exact play_alert mint patience _ i s _ waiter hs hphase (by simp [isPast])

/-- A history in which a task comes in after three seconds. -/
def askedLate : List RelayAction :=
  [.connect "designer", .wait 3, .submit [("ops", .list []), ("taskId", .text "new")]]

/-- How it can go on: after four seconds a reply to another task comes in, and none after that. -/
def answeredStale : List RelayAction :=
  [.wait 4, .deliver 0 oldReply, .resume 0, .wait 6, .resume 0]

/-- With ten seconds of patience that task has ended after thirteen. -/
theorem deadlines_kept_stale :
    ∃ s, ((fresh (.lasting 10)).play (fun _ => "")
        (askedLate ++ .resume 0 :: answeredStale)).submissions[0]? = some s ∧
      s.isFinished = true := by
  have hpassed : (((fresh (.lasting 10)).play (fun _ => "")
      (askedLate ++ .resume 0 :: answeredStale)).submissions[0]?).any
        (fun s => decide s.HasPassed) = true := by decide +kernel
  obtain ⟨s, hs, hpassed⟩ := (Option.any_eq_true _ _).mp hpassed
  have hsent : (((fresh (.lasting 10)).play (fun _ => "")
      (askedLate ++ [.resume 0])).submissions[0]?).any
        (fun s => decide s.phase.IsSent) = true := by decide +kernel
  obtain ⟨u, hu, hsent⟩ := (Option.any_eq_true _ _).mp hsent
  obtain ⟨-, hkept⟩ := deadlines_kept (fun _ => "") (.lasting 10)
    (askedLate ++ .resume 0 :: answeredStale) rfl hs (of_decide_eq_true hpassed)
  obtain ⟨-, -, -, hends⟩ := hkept askedLate answeredStale rfl _ rfl (by decide +kernel) _ rfl
  rw [play_append] at hu
  exact ⟨s, hs, hends (by decide +kernel) [] answeredStale rfl u hu (of_decide_eq_true hsent) 13
    (by decide +kernel) (Or.inr (by decide +kernel))⟩

end

end World

end DesignBridge
