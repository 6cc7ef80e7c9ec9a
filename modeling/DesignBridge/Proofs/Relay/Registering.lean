import DesignBridge.Relay.Registry
import Mathlib.Data.List.Basic

/-! # Who is current

What a registry answers follows from what has happened on it alone: the handle that was registered
last is current, unless it was unregistered since. Calls that listeners make while they hear of a
change count at the point where they are made, however deep they nest and whether or not the
listener fails in the end.
-/

namespace DesignBridge.Registry

variable {H : Type}

/-! ## What calls leave behind -/

/-- Whether a call names a handle, as far as it is about one. -/
def Call.isNamed : Call H → Bool
  | register handle => handle.isSome
  | unregister handle => handle.isSome
  | look => true

/-- Whether the call of an event names a handle. -/
def Event.isNamed : Event H → Bool
  | registered _ _ handle _ => handle.isSome
  | unregistered _ _ handle _ => handle.isSome
  | looked .. => true
  | heard _ => true

/-- Whether a handle that is current stays so through an event. To register it anew is to begin
anew. -/
def Event.Spares (h : H) : Event H → Prop
  | registered .. => False
  | unregistered _ _ handle _ => handle ≠ some h
  | looked .. => True
  | heard _ => True

/-- Whether a log leaves a handle current: it was registered last, and not unregistered since. -/
def Holds (log : List (Event H)) (h : H) : Prop :=
  ∃ before number inside previous since,
    log = before ++ .registered number inside (some h) previous :: since ∧
      ∀ event ∈ since, event.Spares h

/-- Whether an event has the right answer after a log: a register gives the handle that was current
right before, an unregister tells whether its handle was, and whoever looks finds the time of the
last connect set just if someone is current. -/
def Event.IsRight (log : List (Event H)) : Event H → Prop
  | registered _ _ _ previous => ∀ g, previous = some g ↔ Holds log g
  | unregistered _ _ handle cleared => cleared = true ↔ ∃ h, handle = some h ∧ Holds log h
  | looked _ current stamped =>
    (∀ g, current = some g ↔ Holds log g) ∧ stamped = current.isSome
  | heard _ => True

/-- The call of an event, if it was made from outside. -/
def Event.outer? : Event H → Option (Call H)
  | registered _ [] handle _ => some (.register handle)
  | unregistered _ [] handle _ => some (.unregister handle)
  | looked [] _ _ => some .look
  | _ => none

/-- The call that an action is, if it is one. -/
def Action.call? : Action H → Option (Call H)
  | add _ => none
  | call c => some c

theorem not_holds_nil (h : H) : ¬Holds [] h := by
  rintro ⟨before, number, inside, previous, since, hlog, _⟩
  simp at hlog

/-- A handle is current after an event just if the event registers it, or it was current before and
the event spares it. -/
theorem holds_snoc {log : List (Event H)} {event : Event H} {h : H} :
    Holds (log ++ [event]) h ↔
      (∃ number inside previous, event = .registered number inside (some h) previous) ∨
        Holds log h ∧ event.Spares h := by
  constructor
  · rintro ⟨before, number, inside, previous, since, hlog, hspared⟩
    rcases List.eq_nil_or_concat since with rfl | ⟨since, last, rfl⟩
    · obtain ⟨_, hevent⟩ := List.append_inj' hlog rfl
      exact .inl ⟨number, inside, previous, List.singleton_inj.mp hevent⟩
    · rw [List.concat_eq_append, ← List.cons_append, ← List.append_assoc] at hlog
      obtain ⟨rfl, hevent⟩ := List.append_inj' hlog rfl
      obtain rfl := List.singleton_inj.mp hevent
      exact .inr ⟨⟨before, number, inside, previous, since, rfl,
        fun other hother => hspared other (by simp [hother])⟩, hspared event (by simp)⟩
  · rintro (⟨number, inside, previous, rfl⟩ |
      ⟨⟨before, number, inside, previous, since, rfl, hspared⟩, hlast⟩)
    · exact ⟨log, number, inside, previous, [], rfl, by simp⟩
    · refine ⟨before, number, inside, previous, since ++ [event], by simp, fun other hother => ?_⟩
      rcases List.mem_append.mp hother with hother | hother
      · exact hspared other hother
      · exact List.mem_singleton.mp hother ▸ hlast

namespace Chronicle

/-- What is known of a registry and of what has happened on it: who is current follows from that,
the time of the last connect is set just if someone is, and every call got the right answer. -/
structure Lawful (s : Chronicle H) : Prop where
  current : ∀ h, s.registry.current = some h ↔ Holds s.log h
  stamped : s.registry.stamped = s.registry.current.isSome
  answers : ∀ before event rest, s.log = before ++ event :: rest → event.IsRight before

theorem fresh_lawful : (fresh : Chronicle H).Lawful where
  current h := ⟨nofun, fun hholds => (not_holds_nil h hholds).elim⟩
  stamped := rfl
  answers before event rest hlog := by simp [fresh] at hlog

/-- One more event with the right answer leaves all answers right. -/
theorem answers_snoc {log : List (Event H)} {last : Event H} (hlast : last.IsRight log)
    (h : ∀ before event rest, log = before ++ event :: rest → event.IsRight before) :
    ∀ before event rest, log ++ [last] = before ++ event :: rest → event.IsRight before := by
  intro before event rest hlog
  rcases List.eq_nil_or_concat rest with rfl | ⟨rest, final, rfl⟩
  · obtain ⟨rfl, hevent⟩ := List.append_inj' hlog rfl
    exact List.singleton_inj.mp hevent ▸ hlast
  · rw [List.concat_eq_append, ← List.cons_append, ← List.append_assoc] at hlog
    exact h before event rest (List.append_inj' hlog rfl).1

theorem Lawful.note {s : Chronicle H} (h : s.Lawful) (notice : Notice H) :
    (s.note notice).Lawful where
  current g := by
    rw [registry_note, log_note, holds_snoc, h.current]
    simp [Event.Spares]
  stamped := h.stamped
  answers := answers_snoc (show (Event.heard notice).IsRight s.log from trivial) h.answers

section

variable [DecidableEq H] {s : Chronicle H}

theorem isNamed_event (s : Chronicle H) (inside : List Nat) (call : Call H) :
    (s.event inside call).isNamed = call.isNamed := by
  cases call <;> rfl

theorem Lawful.isRight (h : s.Lawful) {inside : List Nat} {call : Call H}
    (hnamed : call.isNamed = true) : (s.event inside call).IsRight s.log := by
  cases call with
  | register handle => exact h.current
  | look => exact ⟨h.current, h.stamped⟩
  | unregister handle =>
      obtain ⟨g, rfl⟩ := Option.isSome_iff_exists.mp hnamed
      simp [event, Event.IsRight, h.current]

/-- A call that names a handle is answered rightly, and leaves the one current that it should. -/
theorem Lawful.take (h : s.Lawful) {inside : List Nat} {call : Call H}
    (hnamed : call.isNamed = true) : (s.take inside call).Lawful where
  answers := answers_snoc (h.isRight hnamed) h.answers
  current g := by
    rw [registry_take, log_take, holds_snoc, ← h.current]
    cases call with
    | register handle => simp [Registry.after, event, Event.Spares]
    | look => simp [Registry.after, event, Event.Spares]
    | unregister handle =>
        by_cases hcurrent : s.registry.current = handle
        · simp [Registry.after, event, Event.Spares, hcurrent]
        · have hother : s.registry.current = some g → handle ≠ some g :=
            fun hg heq => hcurrent (hg.trans heq.symm)
          simpa [Registry.after, event, Event.Spares, hcurrent] using hother
  stamped := by
    rw [registry_take]
    cases call with
    | register handle =>
        obtain ⟨g, rfl⟩ := Option.isSome_iff_exists.mp hnamed
        rfl
    | look => exact h.stamped
    | unregister handle =>
        simp only [Registry.after]
        split
        next => rfl
        next => exact h.stamped

end

end Chronicle

/-- Whether no one listens to a registry, and all that happened on it went by the laws. -/
def Attested (r : Registry H) : Prop :=
  r.listeners = [] ∧ ∃ s : Chronicle H, s.registry = r ∧ s.Lawful

theorem empty_attested : (empty : Registry H).Attested :=
  ⟨rfl, Chronicle.fresh, rfl, Chronicle.fresh_lawful⟩

theorem Attested.stamped {r : Registry H} (h : r.Attested) : r.stamped = r.current.isSome := by
  obtain ⟨_, s, rfl, hlawful⟩ := h
  exact hlawful.stamped

theorem Attested.carryOut [DecidableEq H] {r : Registry H} (h : r.Attested) (depth : Nat)
    {call : Call H} (hnamed : call.isNamed = true) : (r.carryOut depth call).1.Attested := by
  rw [carryOut_of_unheard r depth call h.1]
  obtain ⟨hunheard, s, rfl, hlawful⟩ := h
  exact ⟨(listeners_after s.registry call).trans hunheard, s.take [] call, rfl,
    hlawful.take hnamed⟩

namespace Chronicle

/-! ## What a whole call keeps -/

section

variable {P : Chronicle H → Prop} {s : Chronicle H}

theorem obey_keeps {carry? : Chronicle H → Call H → Option (Chronicle H)}
    (hcarry : ∀ s call after, carry? s call = some after → P s → P after)
    (reaction : Reaction H) (h : P s) : P (s.obey carry? reaction) := by
  induction reaction generalizing s with
  | returns => exact h
  | fails reason => exact h
  | calls call next ih =>
      unfold obey
      cases hcall : carry? s call with
      | none => exact h
      | some after => exact ih after.log (hcarry s call after hcall h)

theorem tell_keeps {carry? : Nat → Chronicle H → Call H → Option (Chronicle H)}
    (hcarry : ∀ place s call after, carry? place s call = some after → P s → P after)
    (hnote : ∀ s notice, P s → P (s.note notice)) (change : Change H) (place : Nat)
    (listeners : List (Listener H)) (h : P s) : P (s.tell carry? change place listeners) := by
  induction listeners generalizing place s with
  | nil => exact h
  | cons listener rest ih =>
      exact ih (place + 1) (obey_keeps (hcarry place) _ (hnote s _ h))

variable [DecidableEq H]

theorem carry_keeps {carry? : List Nat → Chronicle H → Call H → Option (Chronicle H)}
    {inside : List Nat}
    (hcarry : ∀ place s call after, carry? (place :: inside) s call = some after → P s → P after)
    (hnote : ∀ s notice, P s → P (s.note notice)) (call : Call H) (h : P (s.take inside call)) :
    P (s.carry carry? inside call) := by
  unfold carry
  split
  next => exact h
  next change _ => exact tell_keeps hcarry hnote change 0 _ h

/-- Whatever calls from inside and the notices of listeners keep, a call keeps with all that it
causes, once it is taken up itself. -/
theorem call_keeps (htake : ∀ s inside call, inside ≠ [] → P s → P (s.take inside call))
    (hnote : ∀ s notice, P s → P (s.note notice)) (depth : Nat) (inside : List Nat)
    (call : Call H) (h : P (s.take inside call)) : P (s.call depth inside call) := by
  induction depth generalizing s inside call with
  | zero => exact carry_keeps (fun _ _ _ _ hafter _ => by cases hafter) hnote call h
  | succ depth ih =>
      refine carry_keeps (fun place mid nested after hafter hmid => ?_) hnote call h
      obtain rfl := Option.some.inj hafter
      exact ih (place :: inside) nested (htake mid _ nested (List.cons_ne_nil _ _) hmid)

end

/-! ## Histories -/

section

variable [DecidableEq H] {s : Chronicle H}

theorem prefix_call (s : Chronicle H) (depth : Nat) (inside : List Nat) (call : Call H) :
    s.log <+: (s.call depth inside call).log :=
  call_keeps (P := fun t => s.log <+: t.log)
    (fun _ _ _ _ h => h.trans (List.prefix_append _ _))
    (fun _ _ h => h.trans (List.prefix_append _ _)) depth inside call (List.prefix_append _ _)

theorem prefix_act (s : Chronicle H) (depth : Nat) (action : Action H) :
    s.log <+: (s.act depth action).log := by
  cases action with
  | add listener => exact List.prefix_rfl
  | call call => exact prefix_call s depth [] call

theorem prefix_play (s : Chronicle H) (depth : Nat) (history : List (Action H)) :
    s.log <+: (s.play depth history).log := by
  induction history generalizing s with
  | nil => exact List.prefix_rfl
  | cons action rest ih => exact (prefix_act s depth action).trans (ih _)

/-- A call that names a handle keeps the laws, if the calls of listeners name handles as well. -/
theorem Lawful.call (depth : Nat) (inside : List Nat) (call : Call H) (h : s.Lawful)
    (hnamed : ∀ event ∈ (s.call depth inside call).log, event.isNamed = true) :
    (s.call depth inside call).Lawful := by
  have htake : ∀ (s : Chronicle H) inside call,
      ((∀ event ∈ s.log, event.isNamed = true) → s.Lawful) →
        (∀ event ∈ (s.take inside call).log, event.isNamed = true) →
          (s.take inside call).Lawful := by
    intro s inside call hs hall
    rw [log_take, List.forall_mem_append] at hall
    have hevent := hall.2 _ List.mem_cons_self
    exact (hs hall.1).take ((isNamed_event s inside call).symm.trans hevent)
  have hnote : ∀ (s : Chronicle H) notice,
      ((∀ event ∈ s.log, event.isNamed = true) → s.Lawful) →
        (∀ event ∈ (s.note notice).log, event.isNamed = true) → (s.note notice).Lawful := by
    intro s notice hs hall
    rw [log_note, List.forall_mem_append] at hall
    exact (hs hall.1).note notice
  exact call_keeps (P := fun s => (∀ event ∈ s.log, event.isNamed = true) → s.Lawful)
    (fun s inside call _ => htake s inside call) hnote depth inside call
    (htake s inside call fun _ => h) hnamed

theorem Lawful.act (depth : Nat) (action : Action H) (h : s.Lawful)
    (hnamed : ∀ event ∈ (s.act depth action).log, event.isNamed = true) :
    (s.act depth action).Lawful := by
  cases action with
  | add listener => exact ⟨h.current, h.stamped, h.answers⟩
  | call call => exact h.call depth [] call hnamed

theorem Lawful.play (depth : Nat) (history : List (Action H)) (h : s.Lawful)
    (hnamed : ∀ event ∈ (s.play depth history).log, event.isNamed = true) :
    (s.play depth history).Lawful := by
  induction history generalizing s with
  | nil => exact h
  | cons action rest ih =>
      have hlog := prefix_play (s.act depth action) depth rest
      exact ih (h.act depth action fun event hevent => hnamed event (hlog.subset hevent)) hnamed

theorem outer?_event (s : Chronicle H) (inside : List Nat) (call : Call H) :
    (s.event inside call).outer? = if inside = [] then some call else none := by
  cases inside <;> cases call <;> rfl

/-- However many calls listeners make, from outside it is one call. -/
theorem outer_call (s : Chronicle H) (depth : Nat) (call : Call H) :
    (s.call depth [] call).log.filterMap Event.outer? = s.log.filterMap Event.outer? ++ [call] := by
  refine call_keeps (P := fun t => t.log.filterMap Event.outer? =
    s.log.filterMap Event.outer? ++ [call]) (fun t inside nested hinside h => ?_)
    (fun t notice h => ?_) depth [] call ?_
  · rw [log_take, List.filterMap_append, h]
    simp [outer?_event, hinside]
  · rw [log_note, List.filterMap_append, h]
    simp [Event.outer?]
  · rw [log_take, List.filterMap_append]
    simp [outer?_event]

/-- Every call from outside is answered, in order, whatever listeners do. -/
theorem outer_play (s : Chronicle H) (depth : Nat) (history : List (Action H)) :
    (s.play depth history).log.filterMap Event.outer? =
      s.log.filterMap Event.outer? ++ history.filterMap Action.call? := by
  induction history generalizing s with
  | nil => exact (List.append_nil _).symm
  | cons action rest ih =>
      refine (ih (s.act depth action)).trans ?_
      cases action with
      | add listener => rfl
      | call call =>
          rw [act, outer_call, List.append_assoc]
          rfl

end

end Chronicle

end DesignBridge.Registry
