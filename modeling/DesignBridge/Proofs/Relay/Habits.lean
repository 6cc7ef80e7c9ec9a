import DesignBridge.Relay.Registry
import Mathlib.Data.List.Basic

/-! # Calls on their own

A registry can be called without keeping a chronicle. Where listeners heed changes alone, such a
call does what it would do in any chronicle: the same registry is left, and the same is heard.
-/

namespace DesignBridge.Registry

variable {H : Type}

/-- What is seen of a notice from outside. -/
def Notice.seen (notice : Notice H) : Nat × String × Option H × Option H :=
  (notice.place, notice.listener, notice.previous, notice.current)

namespace Chronicle

/-- Whether two registries are the same, with listeners that heed changes alone, and what was heard
on one of them is what was heard on the other, after something else. -/
structure Tallies (earlier : List (Nat × String × Option H × Option H)) (s t : Chronicle H) :
    Prop where
  registry : s.registry = t.registry
  habits : ∀ listener ∈ s.registry.listeners, ∃ habit : Habit H, listener = habit.listener
  seen : s.notices.map Notice.seen = earlier ++ t.notices.map Notice.seen

section

variable {earlier : List (Nat × String × Option H × Option H)} {s t : Chronicle H}
  {change other : Change H}

@[simp] theorem notices_note (s : Chronicle H) (notice : Notice H) :
    (s.note notice).notices = s.notices ++ [notice] := by
  simp [notices]

theorem Tallies.note (h : Tallies earlier s t) {notice notice' : Notice H}
    (hseen : notice.seen = notice'.seen) : Tallies earlier (s.note notice) (t.note notice') where
  registry := h.registry
  habits := h.habits
  seen := by simp [h.seen, hseen]

theorem tallies_obey {carry? : Chronicle H → Call H → Option (Chronicle H)}
    (hcarry : ∀ s t call, Tallies earlier s t →
      Option.Rel (Tallies earlier) (carry? s call) (carry? t call))
    (handles : List (Option H)) (h : Tallies earlier s t) :
    Tallies earlier (s.obey carry? (.ofHandles handles)) (t.obey carry? (.ofHandles handles)) := by
  induction handles generalizing s t with
  | nil => exact h
  | cons handle rest ih =>
      have hfirst := hcarry s t (.register handle) h
      rw [Reaction.ofHandles, List.foldr_cons, ← Reaction.ofHandles, obey, obey]
      generalize carry? s (.register handle) = after at hfirst ⊢
      generalize carry? t (.register handle) = after' at hfirst ⊢
      cases hfirst with
      | none => exact h
      | some hafter => exact ih hafter

theorem tallies_tell {carry? : Nat → Chronicle H → Call H → Option (Chronicle H)}
    (hcarry : ∀ place s t call, Tallies earlier s t →
      Option.Rel (Tallies earlier) (carry? place s call) (carry? place t call))
    (hprevious : change.previous = other.previous) (hcurrent : change.current = other.current)
    (place : Nat) {listeners : List (Listener H)}
    (hhabits : ∀ listener ∈ listeners, ∃ habit : Habit H, listener = habit.listener)
    (h : Tallies earlier s t) :
    Tallies earlier (s.tell carry? change place listeners)
      (t.tell carry? other place listeners) := by
  induction listeners generalizing place s t with
  | nil => exact h
  | cons listener rest ih =>
      obtain ⟨⟨habit, rfl⟩, hrest⟩ := List.forall_mem_cons.mp hhabits
      refine ih (place + 1) hrest ?_
      have hnoted : Tallies earlier (s.note ⟨place, habit.name, change⟩)
          (t.note ⟨place, habit.name, other⟩) :=
        h.note (by simp [Notice.seen, Notice.previous, Notice.current, hprevious, hcurrent])
      simp only [Habit.listener, hprevious, hcurrent]
      cases habit.react other.previous other.current with
      | ok handles => exact tallies_obey (hcarry place) handles hnoted
      | error reason => exact hnoted

variable [DecidableEq H]

theorem notices_take (s : Chronicle H) (inside : List Nat) (call : Call H) :
    (s.take inside call).notices = s.notices := by
  cases call <;> simp [notices, event]

theorem Tallies.take (h : Tallies earlier s t) (inside inside' : List Nat) (call : Call H) :
    Tallies earlier (s.take inside call) (t.take inside' call) where
  registry := congrArg (Registry.after · call) h.registry
  habits := by simpa using h.habits
  seen := by rw [notices_take, notices_take, h.seen]

theorem change?_event_congr (h : s.registry = t.registry) (inside : List Nat) (call : Call H) :
    ((s.event inside call).change?).map (fun change => (change.previous, change.current)) =
      ((t.event inside call).change?).map (fun change => (change.previous, change.current)) := by
  cases call with
  | look => rfl
  | register handle =>
      simp only [event, Event.change?, h]
      split <;> rfl
  | unregister handle =>
      simp only [event, h]
      cases decide (t.registry.current = handle) <;> rfl

theorem tallies_carry {carry? : List Nat → Chronicle H → Call H → Option (Chronicle H)}
    {inside : List Nat}
    (hcarry : ∀ place s t call, Tallies earlier s t →
      Option.Rel (Tallies earlier) (carry? (place :: inside) s call)
        (carry? (place :: inside) t call))
    (call : Call H) (h : Tallies earlier s t) :
    Tallies earlier (s.carry carry? inside call) (t.carry carry? inside call) := by
  have hchange := change?_event_congr h.registry inside call
  have htaken := h.take inside inside call
  unfold carry
  generalize (s.event inside call).change? = change at hchange ⊢
  generalize (t.event inside call).change? = other at hchange ⊢
  cases change with
  | none =>
      cases other with
      | none => exact htaken
      | some other => cases hchange
  | some change =>
      cases other with
      | none => cases hchange
      | some other =>
          obtain ⟨hprevious, hcurrent⟩ := Prod.mk.inj (Option.some.inj hchange)
          rw [h.registry]
          exact tallies_tell hcarry hprevious hcurrent 0 (h.registry ▸ h.habits) htaken

theorem tallies_call (depth : Nat) (inside : List Nat) (call : Call H)
    (h : Tallies earlier s t) :
    Tallies earlier (s.call depth inside call) (t.call depth inside call) := by
  induction depth generalizing s t inside call with
  | zero => exact tallies_carry (fun _ _ _ _ _ => .none) call h
  | succ depth ih =>
      exact tallies_carry (fun place _ _ nested hmid => .some (ih (place :: inside) nested hmid))
        call h

end

end Chronicle

/-- A call on its own does what it does in any chronicle, where listeners heed changes alone. -/
theorem carryOut_eq [DecidableEq H] (depth : Nat) (s : Chronicle H) (call : Call H)
    (h : ∀ listener ∈ s.registry.listeners, ∃ habit : Habit H, listener = habit.listener) :
    (s.registry.carryOut depth call).1 = (s.call depth [] call).registry ∧
      (s.call depth [] call).notices.map Notice.seen =
        s.notices.map Notice.seen ++ (s.registry.carryOut depth call).2.map Notice.seen := by
  have hstart : Chronicle.Tallies (s.notices.map Notice.seen) s ⟨s.registry, []⟩ :=
    ⟨rfl, h, (List.append_nil _).symm⟩
  have hcall := Chronicle.tallies_call depth [] call hstart
  exact ⟨hcall.registry.symm, hcall.seen⟩

end DesignBridge.Registry
