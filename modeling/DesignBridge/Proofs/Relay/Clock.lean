import DesignBridge.Proofs.Relay.Deadline
import DesignBridge.Proofs.Relay.Workload
import Mathlib.Data.Finset.Card

/-! # The running relay keeps time

When no one can go on any more, the clock moves to the next deadline, and there an exchange ends. So
the clock comes to where it is to go within the deadlines that are counted for it. All this is a
history of steps and passing time, in which time only passes when it can.
-/

namespace DesignBridge

/-- What happens by itself: submissions go on, and time passes. -/
inductive RelayAction.Inner : RelayAction → Prop
  | resume (submission : Nat) : Inner (.resume submission)
  | wait (seconds : Time) : Inner (.wait seconds)

theorem Submission.isFinished_iff {s : Submission} :
    s.isFinished = true ↔ ∃ outcome, s.phase = .finished outcome := by
  unfold isFinished
  cases s.phase <;> simp

namespace World

section

variable {mint : Nat → String} {w : World} {i : Nat} {s : Submission}

/-! ## Letting everyone go on -/

theorem isPunctual_append (mint : Nat → String) (w : World) (first second : List RelayAction) :
    isPunctual mint w (first ++ second) =
      (isPunctual mint w first && isPunctual mint (w.play mint first) second) := by
  induction first generalizing w with
  | nil => rfl
  | cons action rest ih =>
      rw [List.cons_append, isPunctual, ih, isPunctual, play_cons, Bool.and_assoc]

/-- A world leads to another when that one comes about by itself and time only passes when it
can. -/
def LeadsTo (mint : Nat → String) (w after : World) : Prop :=
  ∃ rest, (∀ action ∈ rest, action.Inner) ∧ isPunctual mint w rest = true ∧
    w.play mint rest = after

theorem LeadsTo.refl (mint : Nat → String) (w : World) : LeadsTo mint w w :=
  ⟨[], by simp, rfl, rfl⟩

theorem LeadsTo.single {action : RelayAction} (hinner : action.Inner)
    (hpermits : w.permits action = true) : LeadsTo mint w (w.act mint action) :=
  ⟨[action], by simpa using hinner, by simpa [isPunctual] using hpermits, rfl⟩

theorem LeadsTo.trans {mid after : World} (hfirst : LeadsTo mint w mid)
    (hsecond : LeadsTo mint mid after) : LeadsTo mint w after := by
  obtain ⟨first, hinner, hpunctual, rfl⟩ := hfirst
  obtain ⟨second, hinner', hpunctual', rfl⟩ := hsecond
  refine ⟨first ++ second, ?_, ?_, play_append mint w first second⟩
  · rintro action hmem
    exact (List.mem_append.mp hmem).elim (hinner action) (hinner' action)
  · rw [isPunctual_append, hpunctual, hpunctual']
    rfl

/-- What every action keeps holds of whatever a world leads to. -/
theorem LeadsTo.keeps {after : World} (h : LeadsTo mint w after) {P : World → Prop}
    (hact : ∀ w action, P w → P (w.act mint action)) (hw : P w) : P after := by
  obtain ⟨rest, _, _, rfl⟩ := h
  exact play_induction hact hw rest

theorem turn_leadsTo (mint : Nat → String) (w : World) : LeadsTo mint w (w.turn mint) := by
  rcases turn_eq_act mint w with hturn | ⟨i, hturn⟩ <;> rw [hturn]
  · exact .refl mint w
  · exact .single (.resume i) rfl

theorem turn_now (mint : Nat → String) (w : World) : (w.turn mint).now = w.now := by
  rcases turn_eq_act mint w with hturn | ⟨i, hturn⟩ <;> rw [hturn]
  exact act_now mint w (by simp)

theorem settleWithin_leadsTo (mint : Nat → String) (fuel : Nat) (w : World) :
    LeadsTo mint w (settleWithin mint fuel w) ∧ (settleWithin mint fuel w).now = w.now := by
  induction fuel generalizing w with
  | zero => exact ⟨.refl mint w, rfl⟩
  | succ fuel ih =>
      unfold settleWithin
      split
      next => exact ⟨.refl mint w, rfl⟩
      next =>
        obtain ⟨hleads, hnow⟩ := ih (w.turn mint)
        exact ⟨(turn_leadsTo mint w).trans hleads, hnow.trans (turn_now mint w)⟩

/-- Everyone who can goes on, while the clock stands still. -/
theorem settle_leadsTo (mint : Nat → String) (w : World) :
    LeadsTo mint w (w.settle mint) ∧ (w.settle mint).now = w.now :=
  settleWithin_leadsTo mint _ w

/-! ## The next deadline -/

theorem grain_pos : 0 < grain := by decide +kernel

theorem deadline?_eq_some {t : Time} :
    deadline? s = some t ↔ ∃ waiter, s.phase = .awaiting (some t) waiter := by
  unfold deadline?
  cases s.phase <;> simp

theorem exists_earliest (b : Time) (times : List Time) :
    ∃ t, times.foldl (fun best t => some (best.elim t fun b => if t < b then t else b)) (some b) =
        some t ∧ (t = b ∨ t ∈ times) ∧ t ≤ b ∧ ∀ d ∈ times, t ≤ d := by
  induction times generalizing b with
  | nil => exact ⟨b, rfl, Or.inl rfl, Rat.le_refl, by simp⟩
  | cons first rest ih =>
      obtain ⟨t, ht, hfrom, hbound, hrest⟩ := ih (if first < b then first else b)
      refine ⟨t, ht, ?_, ?_, ?_⟩
      · rcases hfrom with rfl | hrest
        · split <;> simp
        · exact Or.inr (List.mem_cons_of_mem _ hrest)
      · split at hbound
        next hless => exact Rat.le_trans hbound (Rat.le_of_lt hless)
        next => exact hbound
      · rintro d (_ | ⟨_, hd⟩)
        · split at hbound
          next => exact hbound
          next hless => exact Rat.le_trans hbound (Rat.not_lt.mp hless)
        · exact hrest d hd

/-- The next deadline is the deadline of someone who waits, and no one's deadline comes before. -/
theorem nextDeadline?_cases (w : World) :
    w.nextDeadline? = none ∧ (∀ s ∈ w.submissions, deadline? s = none) ∨
      ∃ t, w.nextDeadline? = some t ∧ (∃ s ∈ w.submissions, deadline? s = some t) ∧
        ∀ s ∈ w.submissions, ∀ d, deadline? s = some d → t ≤ d := by
  have hmem : ∀ d, d ∈ w.submissions.filterMap deadline? ↔
      ∃ s ∈ w.submissions, deadline? s = some d := fun d => List.mem_filterMap
  unfold nextDeadline?
  cases htimes : w.submissions.filterMap deadline? with
  | nil => exact Or.inl ⟨rfl, List.filterMap_eq_nil_iff.mp htimes⟩
  | cons first rest =>
      rw [htimes] at hmem
      obtain ⟨t, ht, hfrom, hfirst, hrest⟩ := exists_earliest first rest
      refine Or.inr ⟨t, ht, (hmem t).mp (List.mem_cons.mpr hfrom), fun s hs d hd => ?_⟩
      rcases List.mem_cons.mp ((hmem d).mpr ⟨s, hs, hd⟩) with rfl | hd
      · exact hfirst
      · exact hrest d hd

/-- Where no one can go on, every deadline is still to come. -/
theorem Alert.lt_deadline (h : w.Alert) (hready : w.ready = []) (hs : s ∈ w.submissions) {t : Time}
    (ht : deadline? s = some t) : w.now < t := by
  obtain ⟨i, hi⟩ := List.mem_iff_getElem?.mp hs
  obtain ⟨waiter, hawaits⟩ := deadline?_eq_some.mp ht
  refine Rat.not_le.mp fun hle => ?_
  have hcan := h i s (some t) waiter hi hawaits (by simpa [isPast] using hle)
  rw [hready] at hcan
  cases hcan

/-! ## Moving the clock -/

/-- Where no one can go on, the clock can move up to where no one's deadline comes before. -/
theorem setNow_leadsTo (mint : Nat → String) {t : Time} (hready : w.ready = []) (hlt : w.now < t)
    (hdue : ∀ s ∈ w.submissions, ∀ d, deadline? s = some d → t ≤ d) :
    LeadsTo mint w (w.setNow t) ∧ (w.setNow t).now = t ∧
      (w.setNow t).submissions = w.submissions := by
  have htime : w.now + (t - w.now) = t := by grind
  have hpos : ¬ t - w.now ≤ 0 := by grind
  have hact : w.act mint (.wait (t - w.now)) = w.setNow t := by
    simp only [act, if_neg hpos, htime]
  obtain ⟨hnow, hsubmissions, _⟩ := act_wait mint w hpos
  rw [hact] at hnow hsubmissions
  refine ⟨hact ▸ .single (.wait _) ?_, hnow.trans htime, hsubmissions⟩
  have hall : ∀ s ∈ w.submissions, (deadline? s).all (fun d => decide (t ≤ d)) = true := by
    intro s hs
    rw [Option.all_eq_true]
    exact fun d hd => decide_eq_true (hdue s hs d hd)
  simp only [permits, mayPass, htime, hready, List.isEmpty_nil, Bool.true_and]
  rw [List.all_eq_true.mpr hall, Bool.or_true]

/-- Where every deadline comes after, no one can go on when the clock has moved. -/
theorem ready_setNow {t : Time} (hready : w.ready = [])
    (hdue : ∀ s ∈ w.submissions, ∀ d, deadline? s = some d → t < d) : (w.setNow t).ready = [] := by
  have hnone : w.due t = [] := by
    refine List.filter_eq_nil_iff.mpr fun i _ hpast => ?_
    obtain ⟨d, hd, hle⟩ := (Option.any_eq_true _ _).mp hpast
    obtain ⟨s, hs, hd⟩ := Option.bind_eq_some_iff.mp hd
    exact Rat.not_le.mpr (hdue s (List.mem_of_getElem? hs) d hd) (of_decide_eq_true hle)
  rw [setNow, hnone, List.foldl_nil]
  exact hready

/-! ## Letting time pass -/

/-- The submissions that have not ended. -/
def unfinished (w : World) : Finset Nat :=
  (Finset.range w.submissions.length).filter fun i =>
    (w.submissions[i]?).any (fun s => !s.isFinished) = true

theorem mem_unfinished :
    i ∈ w.unfinished ↔ ∃ s, w.submissions[i]? = some s ∧ s.isFinished = false := by
  unfold unfinished
  rw [Finset.mem_filter, Finset.mem_range, Option.any_eq_true]
  simp only [Bool.not_eq_true']
  refine ⟨And.right, fun h => ⟨?_, h⟩⟩
  obtain ⟨s, hs, _⟩ := h
  exact (List.getElem?_eq_some_iff.mp hs).1

/-- Nothing that happens by itself adds a submission, and none that has ended goes on. -/
theorem act_unfinished_subset (mint : Nat → String) {action : RelayAction}
    (hinner : action.Inner) : (w.act mint action).unfinished ⊆ w.unfinished := by
  intro i hi
  obtain ⟨t, ht, hgoes⟩ := mem_unfinished.mp hi
  have hthere : ∃ s, w.submissions[i]? = some s := by
    rcases act_cases mint w action with ⟨j, u, _, _, hu, hmoved⟩ | houtside
    · obtain ⟨_, _, _, _, _, hdiffers, _⟩ := hmoved
      by_cases hj : i = j
      · exact ⟨u, hj ▸ hu⟩
      · exact ⟨t, (hdiffers.submissions i hj).symm.trans ht⟩
    · refine Option.ne_none_iff_exists'.mp fun hs => ?_
      obtain ⟨body, rfl, _⟩ := houtside.joined i t ht hs
      cases hinner
  obtain ⟨s, hs⟩ := hthere
  refine mem_unfinished.mpr ⟨s, hs, Bool.eq_false_iff.mpr fun hfinished => ?_⟩
  obtain ⟨outcome, hphase⟩ := Submission.isFinished_iff.mp hfinished
  obtain ⟨t', ht', hstill⟩ := act_finished mint hs hphase action
  obtain rfl := Option.some.inj (ht.symm.trans ht')
  rw [Submission.isFinished_iff.mpr ⟨outcome, hstill⟩] at hgoes
  cases hgoes

theorem LeadsTo.unfinished_subset {after : World} (h : LeadsTo mint w after) :
    after.unfinished ⊆ w.unfinished := by
  obtain ⟨rest, hinner, -, rfl⟩ := h
  induction rest generalizing w with
  | nil => exact Finset.Subset.refl _
  | cons action rest ih =>
      obtain ⟨hfirst, hrest⟩ := List.forall_mem_cons.mp hinner
      exact (ih hrest).trans (act_unfinished_subset mint hfirst)

/-- Whoever waits goes on waiting up to the same deadline, or ends. -/
theorem LeadsTo.awaiting {after : World} (h : LeadsTo mint w after)
    (hs : w.submissions[i]? = some s) {due : Option Time} {waiter : Nat}
    (hawaits : s.phase = .awaiting due waiter) :
    ∃ t, after.submissions[i]? = some t ∧
      ((∃ next, t.phase = .awaiting due next) ∨ t.isFinished = true) := by
  obtain ⟨rest, -, -, rfl⟩ := h
  have htimed : s.phase.Timed w due := by
    rw [hawaits]
    exact .awaiting waiter
  have hsent : s.phase.IsSent := by
    rw [hawaits]
    exact .awaiting due waiter
  obtain ⟨t, ht, htimed⟩ := play_timed mint rest hs htimed
  obtain ⟨t', ht', hsent⟩ := play_sent mint rest hs hsent
  obtain rfl := Option.some.inj (ht.symm.trans ht')
  refine ⟨t, ht, ?_⟩
  generalize hphase : t.phase = phase at htimed hsent
  cases htimed with
  | sending => cases hsent
  | awaiting next => exact Or.inl ⟨next, rfl⟩
  | finished => exact Or.inr (Submission.isFinished_iff.mpr ⟨_, hphase⟩)

/-- When the clock has moved to the next deadline, and everyone who can has gone on, one submission
less goes on. -/
theorem reach_leadsTo (mint : Nat → String) (hinv : w.Orderly ∧ w.Alert) (hready : w.ready = [])
    {t : Time} (ht : w.nextDeadline? = some t) :
    LeadsTo mint w ((w.setNow t).settle mint) ∧ ((w.setNow t).settle mint).now = t ∧
      ((w.setNow t).settle mint).ready = [] ∧
        ((w.setNow t).settle mint).unfinished ⊂ w.unfinished := by
  rcases nextDeadline?_cases w with ⟨hnone, _⟩ | ⟨t', ht', ⟨s, hs, hdue⟩, hfirst⟩
  · rw [ht] at hnone
    cases hnone
  obtain rfl := Option.some.inj (ht.symm.trans ht')
  obtain ⟨hmoves, hnow, -⟩ := setNow_leadsTo mint hready (hinv.2.lt_deadline hready hs hdue) hfirst
  obtain ⟨hsettles, hstands⟩ := settle_leadsTo mint (w.setNow t)
  have hquiet := ready_settle mint (w.setNow t)
  have hleads := hmoves.trans hsettles
  have hnow := hstands.trans hnow
  refine ⟨hleads, hnow, hquiet, (Finset.ssubset_iff_of_subset hleads.unfinished_subset).mpr ?_⟩
  -- The one whose deadline it was has ended.
  obtain ⟨i, hi⟩ := List.mem_iff_getElem?.mp hs
  obtain ⟨waiter, hawaits⟩ := deadline?_eq_some.mp hdue
  refine ⟨i, mem_unfinished.mpr ⟨s, hi, by simp [Submission.isFinished, hawaits]⟩, fun hgoes => ?_⟩
  obtain ⟨u, hu, hunfinished⟩ := mem_unfinished.mp hgoes
  obtain ⟨u', hu', ⟨next, hstill⟩ | hfinished⟩ := hleads.awaiting hi hawaits
  · have halert := (hleads.keeps (act_alert mint) hinv).2
    have hlater := halert.lt_deadline hquiet (List.mem_of_getElem? hu')
      (deadline?_eq_some.mpr ⟨next, hstill⟩)
    rw [hnow] at hlater
    exact absurd hlater (Rat.lt_irrefl)
  · obtain rfl := Option.some.inj (hu.symm.trans hu')
    rw [hfinished] at hunfinished
    cases hunfinished

/-- With as many deadlines to go to as there are submissions that go on, the clock comes to where it
is to go. -/
theorem advanceWithin_leadsTo (mint : Nat → String) (target : Time) {fuel : Nat}
    (hinv : w.Orderly ∧ w.Alert) (hready : w.ready = []) (hfuel : w.unfinished.card < fuel) :
    LeadsTo mint w (advanceWithin mint target fuel w) ∧
      (advanceWithin mint target fuel w).ready = [] ∧
      target ≤ (advanceWithin mint target fuel w).now ∧
      (w.now < target + grain → (advanceWithin mint target fuel w).now < target + grain) := by
  induction fuel generalizing w with
  | zero => omega
  | succ fuel ih =>
      unfold advanceWithin
      split
      next t ht =>
        obtain ⟨ht, hnear⟩ := Option.filter_eq_some_iff.mp ht
        obtain ⟨hleads, hnow, hquiet, hless⟩ := reach_leadsTo mint hinv hready ht
        have hcard := Finset.card_lt_card hless
        obtain ⟨hrest, hstill, hreached, hclose⟩ :=
          ih (hleads.keeps (act_alert mint) hinv) hquiet (by omega)
        refine ⟨hleads.trans hrest, hstill, hreached, fun _ => hclose ?_⟩
        rw [hnow]
        exact of_decide_eq_true hnear
      next hnone =>
        have hdue : ∀ s ∈ w.submissions, ∀ d, deadline? s = some d → target < d := by
          intro s hs d hd
          rcases nextDeadline?_cases w with ⟨_, hall⟩ | ⟨t, ht, _, hfirst⟩
          · rw [hall s hs] at hd
            cases hd
          · have hfar : ¬ t < target + grain := by simpa [ht] using hnone
            grind [hfirst s hs d hd, grain_pos]
        split
        next hlt =>
          obtain ⟨hleads, hnow, -⟩ := setNow_leadsTo mint hready hlt fun s hs d hd =>
            Rat.le_of_lt (hdue s hs d hd)
          refine ⟨hleads, ready_setNow hready hdue, hnow.symm ▸ Rat.le_refl, fun _ => ?_⟩
          rw [hnow]
          grind [grain_pos]
        next hge => exact ⟨.refl mint w, hready, Rat.not_lt.mp hge, id⟩

/-- Letting time pass is a history that goes by itself, and in it time only passes when it can. At
its end that time has passed, up to a grain; no one can go on, and every deadline is still to
come. -/
theorem advance_leadsTo (mint : Nat → String) (patience : Patience) (history : List RelayAction)
    (hw : w = (fresh patience).play mint history) (seconds : Time) :
    LeadsTo mint w (w.advance mint seconds) ∧ (w.advance mint seconds).ready = [] ∧
      w.now + seconds ≤ (w.advance mint seconds).now ∧
      (0 ≤ seconds → (w.advance mint seconds).now < w.now + seconds + grain) ∧
      ∀ s ∈ (w.advance mint seconds).submissions, ∀ t, deadline? s = some t →
        (w.advance mint seconds).now < t := by
  have hinv : w.Orderly ∧ w.Alert := by
    rw [hw]
    exact ⟨play_orderly mint patience history, play_alert mint patience history⟩
  obtain ⟨hsettles, hstands⟩ := settle_leadsTo mint w
  have hcard : (w.settle mint).unfinished.card < (w.settle mint).submissions.length + 1 :=
    Nat.lt_succ_of_le ((Finset.card_filter_le _ _).trans (Finset.card_range _).le)
  obtain ⟨hadvances, hready, hreached, hclose⟩ := advanceWithin_leadsTo mint
    ((w.settle mint).now + seconds) (hsettles.keeps (act_alert mint) hinv)
    (ready_settle mint w) hcard
  have hleads : LeadsTo mint w (w.advance mint seconds) := hsettles.trans hadvances
  refine ⟨hleads, hready, hstands ▸ hreached, fun hforward => ?_, fun s hs t ht =>
    (hleads.keeps (act_alert mint) hinv).2.lt_deadline hready hs ht⟩
  have hstart : (w.settle mint).now < (w.settle mint).now + seconds + grain := by
    grind [grain_pos]
  exact hstands ▸ hclose hstart

/-- Whoever waits when time is let pass has ended when its deadline is reached by that. -/
theorem advance_ends (mint : Nat → String) (patience : Patience) (history : List RelayAction)
    (hw : w = (fresh patience).play mint history) (hs : w.submissions[i]? = some s)
    {t : Time} {waiter : Nat} (hawaits : s.phase = .awaiting (some t) waiter) {seconds : Time}
    (hreach : t ≤ w.now + seconds) :
    ∃ u, (w.advance mint seconds).submissions[i]? = some u ∧ u.isFinished = true := by
  obtain ⟨hleads, -, hreached, -, hahead⟩ := advance_leadsTo mint patience history hw seconds
  obtain ⟨u, hu, ⟨next, hstill⟩ | hfinished⟩ := hleads.awaiting hs hawaits
  · have hlater := hahead u (List.mem_of_getElem? hu) t (deadline?_eq_some.mpr ⟨next, hstill⟩)
    exact absurd (Rat.le_trans hreach hreached) (Rat.not_le.mpr hlater)
  · exact ⟨u, hu, hfinished⟩

end

end World

end DesignBridge
