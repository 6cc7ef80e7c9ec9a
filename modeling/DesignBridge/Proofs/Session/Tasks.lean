import DesignBridge.Proofs.Relay.Outside
import DesignBridge.Proofs.Session.Label

/-! # Tasks keep their ids

A submission that has started has the same id and the same connection ever after. If its body holds
a task, that is settled before it is sent, and stays settled.
-/

namespace DesignBridge

/-- A submission whose body holds a task, which is settled unless the submission has not started or
has ended. -/
structure Submission.Arrived (s : Submission) : Prop where
  body : Task.Arrives s.body
  settled : s.phase = .fresh ∨ (∃ outcome, s.phase = .finished outcome) ∨ s.Tasked

section

variable {mint : Nat → String} {w : World} {i c : Nat} {s t : Submission} {port after : Port}
  {before then_ : Option Port} {phase : Phase} {news : List RelayEvent}

theorem Entry.payload_of_sent (h : Entry w i c s port phase after news) {d : Nat}
    {payload : String} (hsent : .sent d payload ∈ news) : payload = s.payload := by
  cases h with
  | late | sent =>
      simp only [List.mem_cons, RelayEvent.sent.injEq, reduceCtorEq, List.not_mem_nil, or_false]
        at hsent
      exact hsent.2
  | _ => simp at hsent

theorem Entry.ne_fresh (h : Entry w i c s port phase after news) : phase ≠ .fresh := by
  cases h <;> simp

theorem Submission.Arrived.tasked (h : s.Arrived) (hfresh : s.phase ≠ .fresh)
    (hfinished : ∀ outcome, s.phase ≠ .finished outcome) : s.Tasked := by
  rcases h.settled with hphase | ⟨outcome, hphase⟩ | htasked
  · exact absurd hphase hfresh
  · exact absurd hphase (hfinished outcome)
  · exact htasked

theorem Submission.Arrived.tasked_of_waiter (h : s.Arrived) {waiter : Nat}
    (hwaiter : s.phase.waiter? = some waiter) : s.Tasked := by
  apply h.tasked
  · intro hphase
    rw [hphase] at hwaiter
    cases hwaiter
  · intro outcome hphase
    rw [hphase] at hwaiter
    cases hwaiter

/-- The task of a submission stays settled, however far the submission comes. -/
theorem Submission.Tasked.set (h : s.Tasked) (phase : Phase) (cancelled : Bool) :
    Submission.Tasked { s with phase, cancelled } :=
  ⟨h.members, h.operations, h.id⟩

/-- Whoever has started stays started and keeps its id and its connection. -/
theorem Move.kept (h : Move mint w i c s before t then_ news) (hphase : s.phase ≠ .fresh) :
    t.phase ≠ .fresh ∧ t.taskId = s.taskId ∧ t.connection = s.connection := by
  cases h with
  | rested => exact ⟨hphase, rfl, rfl⟩
  | abandoned hfresh | alone hfresh | unopened hfresh | joined hfresh | entered hfresh =>
      exact absurd hfresh hphase
  | called _ _ _ _ hentry => exact ⟨hentry.ne_fresh, rfl, rfl⟩
  | withdrew | sent | rearmed | overdue | ended => exact ⟨by simp, rfl, rfl⟩

theorem Move.arrived (h : Move mint w i c s before t then_ news) (hs : s.Arrived) : t.Arrived := by
  have hbody : Task.Arrives (s.settle mint w.minted c).body := by
    rw [Submission.settle_body]
    exact hs.body
  have hsettled := Submission.settle_tasked mint w.minted c hs.body
  cases h with
  | rested => exact hs
  | abandoned | alone | withdrew | overdue | ended => exact ⟨hs.body, Or.inr (Or.inl ⟨_, rfl⟩)⟩
  | unopened => exact ⟨hbody, Or.inr (Or.inl ⟨_, rfl⟩)⟩
  | joined => exact ⟨hbody, Or.inr (Or.inr hsettled)⟩
  | entered => exact ⟨hbody, Or.inr (Or.inr (hsettled.set _ _))⟩
  | called hphase | sent hphase | rearmed hphase =>
      have htasked := hs.tasked (by simp [hphase]) (by simp [hphase])
      exact ⟨hs.body, Or.inr (Or.inr (htasked.set _ _))⟩

/-- Whoever sends a task has settled it. -/
theorem Move.sends (h : Move mint w i c s before t then_ news) (hs : s.Arrived) {d : Nat}
    {payload : String} (hsent : .sent d payload ∈ news) :
    t.phase ≠ .fresh ∧ t.Tasked ∧ t.payload = payload := by
  cases h with
  -- These steps send nothing.
  | rested | abandoned | alone | unopened | joined | withdrew | rearmed | overdue =>
      simp at hsent
  | entered _ _ _ _ hentry =>
      have htasked := Submission.settle_tasked mint w.minted c hs.body
      exact ⟨hentry.ne_fresh, htasked.set _ _, (hentry.payload_of_sent hsent).symm⟩
  | called hphase _ _ _ hentry =>
      have htasked := hs.tasked (by simp [hphase]) (by simp [hphase])
      exact ⟨hentry.ne_fresh, htasked.set _ _, (hentry.payload_of_sent hsent).symm⟩
  | sent hphase =>
      have htasked := hs.tasked (by simp [hphase]) (by simp [hphase])
      simp only [List.mem_singleton, RelayEvent.sent.injEq] at hsent
      exact ⟨by simp, htasked.set _ _, hsent.2.symm⟩
  | ended _ hending =>
      have htasked := hs.tasked_of_waiter hending.waiter?
      cases hending with
      | late =>
          simp only [List.cons_append, List.nil_append, List.mem_cons, RelayEvent.sent.injEq,
            reduceCtorEq, List.not_mem_nil, or_false] at hsent
          exact ⟨by simp, htasked.set _ _, hsent.2.symm⟩
      | _ => simp at hsent

end

namespace World

/-- Whether a submission has started and has an id. -/
def Named (w : World) (i : Nat) (id : Runes) : Prop :=
  ∃ s, w.submissions[i]? = some s ∧ s.phase ≠ .fresh ∧ s.taskId = .text id

/-- Whether every submission brings a task. -/
def Tasks (w : World) : Prop :=
  ∀ (i : Nat) (s : Submission), w.submissions[i]? = some s → s.Arrived

section

variable (mint : Nat → String) {w : World}

theorem act_kept {i : Nat} {s : Submission} (hs : w.submissions[i]? = some s)
    (hphase : s.phase ≠ .fresh) (action : RelayAction) :
    ∃ t, (w.act mint action).submissions[i]? = some t ∧ t.phase ≠ .fresh ∧
      t.taskId = s.taskId ∧ t.connection = s.connection := by
  rcases act_cases mint w action with ⟨j, u, _, _, hu, hmoved⟩ | houtside
  · obtain ⟨c, t, port', news, hmove, hdiffers, _⟩ := hmoved
    by_cases hj : i = j
    · subst hj
      obtain rfl := Option.some.inj (hs.symm.trans hu)
      exact ⟨t, hdiffers.submission, hmove.kept hphase⟩
    · exact ⟨s, (hdiffers.submissions i hj).trans hs, hphase, rfl, rfl⟩
  · obtain ⟨cancelled, hafter⟩ := houtside.submission i s hs
    exact ⟨_, hafter, hphase, rfl, rfl⟩

/-- A submission that has started has the same id and the same connection ever after. -/
theorem play_kept {i : Nat} {s : Submission} (hs : w.submissions[i]? = some s)
    (hphase : s.phase ≠ .fresh) (rest : List RelayAction) :
    ∃ t, (w.play mint rest).submissions[i]? = some t ∧ t.phase ≠ .fresh ∧
      t.taskId = s.taskId ∧ t.connection = s.connection := by
  induction rest generalizing w s with
  | nil => exact ⟨s, hs, hphase, rfl, rfl⟩
  | cons action rest ih =>
      obtain ⟨t, ht, hstarted, hid, hconnection⟩ := act_kept mint hs hphase action
      obtain ⟨u, hu, hlater, hid', hconnection'⟩ := ih ht hstarted
      exact ⟨u, hu, hlater, hid'.trans hid, hconnection'.trans hconnection⟩

theorem Named.act {i : Nat} {id : Runes} (h : w.Named i id) (action : RelayAction) :
    (w.act mint action).Named i id := by
  obtain ⟨s, hs, hphase, hid⟩ := h
  obtain ⟨t, ht, hstarted, hsame, _⟩ := act_kept mint hs hphase action
  exact ⟨t, ht, hstarted, hsame.trans hid⟩

theorem Tasks.act (h : w.Tasks) {action : RelayAction}
    (hbody : ∀ body, action = .submit body → Task.Arrives body) : (w.act mint action).Tasks := by
  intro i t ht
  rcases act_cases mint w action with ⟨j, u, _, _, hu, hmoved⟩ | houtside
  · obtain ⟨c, t', port', news, hmove, hdiffers, _⟩ := hmoved
    by_cases hj : i = j
    · subst hj
      obtain rfl := Option.some.inj (hdiffers.submission.symm.trans ht)
      exact hmove.arrived (h i u hu)
    · rw [hdiffers.submissions i hj] at ht
      exact h i t ht
  · cases hs : w.submissions[i]? with
    | none =>
        obtain ⟨body, haction, rfl⟩ := houtside.joined i t ht hs
        exact ⟨hbody body haction, Or.inl rfl⟩
    | some s =>
        obtain ⟨cancelled, hafter⟩ := houtside.submission i s hs
        obtain rfl := Option.some.inj (ht.symm.trans hafter)
        have harrived := h i s hs
        exact ⟨harrived.body, harrived.settled.imp_right (Or.imp_right (·.set _ _))⟩

end

end World

end DesignBridge
