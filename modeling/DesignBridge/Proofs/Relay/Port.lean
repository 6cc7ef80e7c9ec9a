import DesignBridge.Relay.Connection
import DesignBridge.Relay.Gate

/-! # Waiters and places in line

What each call on a connection does to its waiters, and each call on a gate to its line. A
connection is idle or holds one waiter; a gate is free or taken. Every call keeps to these states,
so the relay's steps never look inside a connection or a gate.
-/

namespace DesignBridge

namespace Connection

/-- No reply is awaited, and every waiter is done. -/
structure Idle (c : Connection) : Prop where
  slot : c.slot = none
  done : ∀ n, c.isArmed n = false

/-- One waiter is in use: the next reply goes to it, or it has got one. All others are done. -/
structure Holds (c : Connection) (n : Nat) : Prop where
  state : (c.slot = some n ∧ c.isArmed n = true) ∨
    (c.slot = none ∧ ∃ frame, c.waiters[n]? = some (.answered frame))
  others : ∀ m, m ≠ n → c.isArmed m = false

theorem isArmed_iff {c : Connection} {n : Nat} :
    c.isArmed n = true ↔ c.waiters[n]? = some .armed := by
  simp [isArmed]

theorem fresh_idle (peer : String) : (fresh peer).Idle :=
  ⟨rfl, fun n => by simp [fresh, isArmed]⟩

/-- A waiter that has its reply leaves the connection idle. -/
theorem Holds.idle_of_answered {c : Connection} {n : Nat} {frame : String} (h : c.Holds n)
    (hframe : c.waiters[n]? = some (.answered frame)) : c.Idle := by
  have hdone : c.isArmed n = false := by simp [isArmed, hframe]
  obtain ⟨_, harmed⟩ | ⟨hslot, _⟩ := h.state
  · rw [hdone] at harmed
    cases harmed
  · refine ⟨hslot, fun m => ?_⟩
    by_cases hm : m = n
    · exact hm ▸ hdone
    · exact h.others m hm

theorem Holds.isAwaiting_iff {c : Connection} {n : Nat} (h : c.Holds n) :
    c.isAwaiting = true ↔ c.isArmed n = true := by
  obtain ⟨hslot, harmed⟩ | ⟨hslot, frame, hframe⟩ := h.state
  · simp [isAwaiting, hslot]
  · simp [isAwaiting, hslot, isArmed, hframe]

/-- The waiter that is in use and not armed has its reply. -/
theorem Holds.answered {c : Connection} {n : Nat} (h : c.Holds n)
    (hdone : c.isArmed n = false) : ∃ frame, c.waiters[n]? = some (.answered frame) := by
  obtain ⟨_, harmed⟩ | ⟨_, hframe⟩ := h.state
  · rw [hdone] at harmed
    cases harmed
  · exact hframe

/-! ## Calls -/

theorem Idle.expect {c : Connection} (h : c.Idle) :
    c.expect = some (c.waiters.length,
      { c with waiters := c.waiters ++ [.armed], slot := some c.waiters.length }) := by
  simp [Connection.expect, isAwaiting, h.slot]

/-- A new waiter is in use at once, and armed. -/
theorem Idle.holds_of_expect {c after : Connection} {n : Nat} (h : c.Idle)
    (hexpect : c.expect = some (n, after)) : after.Holds n ∧ after.isArmed n = true := by
  rw [h.expect] at hexpect
  obtain ⟨rfl, rfl⟩ := Prod.mk.inj (Option.some.inj hexpect)
  have harmed : Connection.isArmed { c with
      waiters := c.waiters ++ [.armed],
      slot := some c.waiters.length } c.waiters.length = true := by
    simp [isArmed]
  refine ⟨⟨Or.inl ⟨rfl, harmed⟩, ?_⟩, harmed⟩
  intro m hm
  have hdone := h.done m
  simp only [isArmed, beq_eq_false_iff_ne, ne_eq] at hdone ⊢
  rw [List.getElem?_append]
  split
  next => exact hdone
  next hlt =>
    have hpos : m - c.waiters.length ≠ 0 := by omega
    simp [hpos]

theorem expect_armed {c after : Connection} {n : Nat} (hexpect : c.expect = some (n, after)) :
    after.waiters[n]? = some .armed := by
  unfold Connection.expect at hexpect
  split at hexpect
  next => cases hexpect
  next =>
    obtain ⟨rfl, rfl⟩ := Prod.mk.inj (Option.some.inj hexpect)
    simp

theorem cancel_slot (c : Connection) (n : Nat) : (c.cancel n).1.slot = c.slot := by
  unfold cancel
  split <;> rfl

theorem isArmed_cancel (c : Connection) (n m : Nat) :
    (c.cancel n).1.isArmed m = (c.isArmed m && m != n) := by
  unfold cancel
  by_cases hm : m = n
  · subst hm
    split
    next harmed =>
      have hlt : m < c.waiters.length := (List.getElem?_eq_some_iff.mp (isArmed_iff.mp harmed)).1
      simp [isArmed, setWaiter, hlt]
    next hdone => simpa using hdone
  · have hne : n ≠ m := fun h => hm h.symm
    split <;> simp [isArmed, setWaiter, hm, hne]

/-- Ending the wait that is in use leaves the connection idle. -/
theorem Holds.clear_idle {c : Connection} {n : Nat} (h : c.Holds n) : (c.clear n).Idle := by
  unfold clear
  constructor
  · rw [cancel_slot]
    obtain ⟨hslot, _⟩ | ⟨hslot, _⟩ := h.state <;> simp [hslot]
  · intro m
    rw [isArmed_cancel]
    by_cases hm : m = n
    · simp [hm]
    · simpa [isArmed, hm] using h.others m hm

/-! No wait changes whether a connection counts as closed, and no frame does. -/

theorem expect_closed {c after : Connection} {n : Nat} (h : c.expect = some (n, after)) :
    after.closed = c.closed := by
  unfold Connection.expect at h
  split at h
  next => cases h
  next =>
    obtain ⟨_, rfl⟩ := Prod.mk.inj (Option.some.inj h)
    rfl

theorem cancel_closed (c : Connection) (n : Nat) : (c.cancel n).1.closed = c.closed := by
  unfold cancel
  split <;> rfl

theorem clear_closed (c : Connection) (n : Nat) : (c.clear n).closed = c.closed :=
  cancel_closed _ n

theorem deliver_closed (c : Connection) (frame : String) :
    (c.deliver frame).1.closed = c.closed := by
  unfold deliver
  split
  next => rfl
  next =>
    split
    next => rfl
    next => split <;> rfl

/-- A frame reaches a waiter only if the connection is open and the frame is no heartbeat. -/
theorem deliver_answers {c : Connection} {frame : String} {n : Nat}
    (h : (c.deliver frame).2 = some n) :
    c.closed = false ∧ Frame.isHeartbeat frame = false ∧ c.slot = some n ∧ c.isArmed n = true ∧
      (c.deliver frame).1 = { c.setWaiter n (.answered frame) with slot := none } := by
  unfold deliver at h ⊢
  split at h
  next => cases h
  next hopen =>
    split at h
    next => cases h
    next hbeat =>
      cases hslot : c.slot.filter c.isArmed with
      | none => simp [hslot] at h
      | some m =>
          obtain ⟨hslot', harmed⟩ := Option.filter_eq_some_iff.mp hslot
          simp only [hslot, Option.some.injEq] at h
          subst h
          simp [hopen, hbeat, hslot', harmed]

/-- A frame that reaches no waiter leaves all waiters as they were. -/
theorem deliver_unanswered {c : Connection} {frame : String}
    (h : (c.deliver frame).2 = none) :
    (c.deliver frame).1.waiters = c.waiters ∧ (c.deliver frame).1.slot = c.slot := by
  unfold deliver at h ⊢
  split
  next => exact ⟨rfl, rfl⟩
  next hopen =>
    split
    next => exact ⟨rfl, rfl⟩
    next hbeat =>
      cases hslot : c.slot.filter c.isArmed with
      | none => exact ⟨rfl, rfl⟩
      | some m => simp [hopen, hbeat, hslot] at h

/-- While a waiter is armed on an open connection, the next frame that is no heartbeat answers
it. -/
theorem Holds.deliver_armed {c : Connection} {n : Nat} (h : c.Holds n) (harmed : c.isArmed n = true)
    (hopen : c.closed = false) {frame : String} (hbeat : Frame.isHeartbeat frame = false) :
    c.deliver frame = ({ c.setWaiter n (.answered frame) with slot := none }, some n) := by
  have hslot : c.slot = some n := by
    obtain ⟨hslot, _⟩ | ⟨_, _, hframe⟩ := h.state
    · exact hslot
    · simp [isArmed, hframe] at harmed
  have hfilter : c.slot.filter c.isArmed = some n := by simp [hslot, Option.filter, harmed]
  simp [deliver, hopen, hbeat, hfilter]

/-- With no waiter armed, a frame that is no heartbeat is dropped without a trace. -/
theorem deliver_dropped {c : Connection} {frame : String} (hwait : c.isAwaiting = false)
    (hbeat : Frame.isHeartbeat frame = false) : c.deliver frame = (c, none) := by
  have hnone : c.slot.filter c.isArmed = none := by
    cases hslot : c.slot with
    | none => rfl
    | some n =>
        simp only [isAwaiting, hslot, Option.any_some] at hwait
        simp [Option.filter, hwait]
  simp [deliver, hbeat, hnone]

theorem setWaiter_holds {c : Connection} {n : Nat} {frame : String} (h : c.Holds n)
    (harmed : c.isArmed n = true) :
    Holds { c.setWaiter n (.answered frame) with slot := none } n := by
  have hlt : n < c.waiters.length := (List.getElem?_eq_some_iff.mp (isArmed_iff.mp harmed)).1
  refine ⟨Or.inr ⟨rfl, frame, by simp [setWaiter, hlt]⟩, ?_⟩
  intro m hm
  have hne : n ≠ m := fun heq => hm heq.symm
  simpa [isArmed, setWaiter, hne] using h.others m hm

theorem Holds.congr {c after : Connection} {n : Nat} (h : c.Holds n)
    (hwaiters : after.waiters = c.waiters) (hslot : after.slot = c.slot) : after.Holds n := by
  have harmed : ∀ m, after.isArmed m = c.isArmed m := fun m => by simp [isArmed, hwaiters]
  refine ⟨?_, fun m hm => (harmed m).trans (h.others m hm)⟩
  rw [hslot, harmed, hwaiters]
  exact h.state

theorem Idle.congr {c after : Connection} (h : c.Idle)
    (hwaiters : after.waiters = c.waiters) (hslot : after.slot = c.slot) : after.Idle :=
  ⟨hslot.trans h.slot, fun m => by simpa [isArmed, hwaiters] using h.done m⟩

theorem Holds.deliver {c : Connection} {n : Nat} (h : c.Holds n) (frame : String) :
    (c.deliver frame).1.Holds n := by
  cases hanswered : (c.deliver frame).2 with
  | none =>
      obtain ⟨hwaiters, hslot⟩ := deliver_unanswered hanswered
      exact h.congr hwaiters hslot
  | some m =>
      obtain ⟨_, _, _, harmed, hafter⟩ := deliver_answers hanswered
      have hm : m = n := Classical.byContradiction fun hne => by
        rw [h.others m hne] at harmed
        cases harmed
      subst hm
      rw [hafter]
      exact setWaiter_holds h harmed

theorem Idle.deliver {c : Connection} (h : c.Idle) (frame : String) :
    (c.deliver frame).1.Idle ∧ (c.deliver frame).2 = none := by
  cases hanswered : (c.deliver frame).2 with
  | none =>
      obtain ⟨hwaiters, hslot⟩ := deliver_unanswered hanswered
      exact ⟨h.congr hwaiters hslot, rfl⟩
  | some n =>
      obtain ⟨_, _, hslot, _⟩ := deliver_answers hanswered
      rw [h.slot] at hslot
      cases hslot

end Connection

namespace Gate

/-- Someone is through, and no one in line is called. -/
structure Taken (g : Gate) : Prop where
  held : g.held = true
  waiting : ∀ place ∈ g.line, place.2 ≠ .called

/-- No one is through; at most the first in line is called. -/
structure Free (g : Gate) : Prop where
  open_ : g.held = false
  waiting : ∀ place ∈ g.line.tail, place.2 ≠ .called

theorem fresh_free : fresh.Free :=
  ⟨rfl, by simp [fresh]⟩

theorem Taken.not_isOpen {g : Gate} (h : g.Taken) : g.isOpen = false := by
  simp [isOpen, h.held]

/-- Whoever is called finds the gate free. -/
theorem Taken.not_called {g : Gate} (h : g.Taken) (who : Nat) : g.turn? who ≠ some .called := by
  intro hturn
  obtain ⟨before, after, hline, _⟩ := List.lookup_eq_some_iff.mp hturn
  exact h.waiting (who, .called) (by rw [hline]; simp) rfl

/-- Going through an open gate takes it. -/
theorem take_taken {g : Gate} (h : g.isOpen = true) : g.take.Taken := by
  refine ⟨rfl, fun place hplace heq => ?_⟩
  simp only [isOpen, Bool.and_eq_true, List.all_eq_true] at h
  have hgone := h.2 place hplace
  simp [heq] at hgone

theorem mem_tail_join {g : Gate} {who : Nat} {place : Nat × Turn}
    (h : place ∈ (g.join who).line.tail) : place ∈ g.line.tail ∨ place = (who, .waiting) := by
  unfold join at h
  cases hline : g.line with
  | nil => simp [hline] at h
  | cons head rest => simpa [hline] using h

theorem Free.join {g : Gate} (h : g.Free) (who : Nat) : (g.join who).Free := by
  refine ⟨h.open_, fun place hplace => ?_⟩
  obtain hold | rfl := mem_tail_join hplace
  · exact h.waiting place hold
  · exact Turn.noConfusion

theorem Taken.join {g : Gate} (h : g.Taken) (who : Nat) : (g.join who).Taken := by
  refine ⟨h.held, fun place hplace => ?_⟩
  simp only [Gate.join, List.mem_append, List.mem_singleton] at hplace
  obtain hold | rfl := hplace
  · exact h.waiting place hold
  · exact Turn.noConfusion

/-- Calling changes at most the place at the front of the line. -/
theorem call_free {g : Gate} (hopen : g.held = false)
    (h : ∀ place ∈ g.line.tail, place.2 ≠ .called) : g.call.1.Free := by
  unfold call
  split
  next who rest hline =>
    refine ⟨hopen, fun place hplace => ?_⟩
    rw [hline] at h
    exact h place hplace
  next => exact ⟨hopen, h⟩

theorem mem_drop {g : Gate} {who : Nat} {place : Nat × Turn} (h : place ∈ (g.drop who).line) :
    place ∈ g.line :=
  (List.mem_filter.mp h).1

theorem mem_join {g : Gate} {who other : Nat} (h : (other, .called) ∈ (g.join who).line) :
    (other, .called) ∈ g.line := by
  simpa [join] using h

/-- Nobody is called but by a call. -/
theorem mem_call {g : Gate} {who : Nat} (h : (who, .called) ∈ g.call.1.line) :
    (who, .called) ∈ g.line ∨ g.call.2 = some who := by
  unfold call at h ⊢
  split at h
  next first rest hline =>
    simp only [List.mem_cons, Prod.mk.injEq, and_true] at h
    rw [hline]
    exact h.elim (fun heq => Or.inr (by simp [heq]))
      fun hrest => Or.inl (List.mem_cons_of_mem _ hrest)
  next => exact Or.inl h

theorem mem_leaveLine {g : Gate} {who other : Nat}
    (h : (other, .called) ∈ (g.leaveLine who).1.line) :
    (other, .called) ∈ g.line ∨ (g.leaveLine who).2 = some other := by
  unfold leaveLine at h ⊢
  dsimp only at h ⊢
  cases hheld : (g.drop who).held with
  | true =>
      rw [hheld] at h
      exact Or.inl (mem_drop h)
  | false =>
      rw [hheld] at h
      exact (mem_call h).imp_left mem_drop

/-- Leaving a gate frees it. -/
theorem Taken.leave {g : Gate} (h : g.Taken) : g.leave.1.Free :=
  call_free rfl fun place hplace => h.waiting place (List.mem_of_mem_tail hplace)

theorem Taken.drop {g : Gate} (h : g.Taken) (who : Nat) : (g.drop who).Taken :=
  ⟨h.held, fun place hplace => h.waiting place ((List.mem_filter.mp hplace).1)⟩

theorem mem_tail_filter {α : Type} {p : α → Bool} {xs : List α} {x : α}
    (h : x ∈ (xs.filter p).tail) : x ∈ xs.tail := by
  cases xs with
  | nil => simp at h
  | cons head rest =>
      rw [List.filter_cons] at h
      split at h
      next => exact (List.mem_filter.mp h).1
      next => exact (List.mem_filter.mp (List.mem_of_mem_tail h)).1

theorem Free.drop {g : Gate} (h : g.Free) (who : Nat) : (g.drop who).Free :=
  ⟨h.open_, fun place hplace => h.waiting place (mem_tail_filter hplace)⟩

theorem Free.leaveLine {g : Gate} (h : g.Free) (who : Nat) : (g.leaveLine who).1.Free := by
  have hdrop := h.drop who
  have hopen : (g.drop who).held = false := hdrop.open_
  simp only [Gate.leaveLine, hopen]
  exact call_free hdrop.open_ hdrop.waiting

theorem Taken.leaveLine {g : Gate} (h : g.Taken) (who : Nat) : (g.leaveLine who).1.Taken := by
  have hheld : (g.drop who).held = true := (h.drop who).held
  simp only [Gate.leaveLine, hheld, if_true]
  exact h.drop who

/-- Whoever was called at a free gate is the first in line. -/
theorem Free.called_first {g : Gate} (h : g.Free) {who : Nat} (hturn : g.turn? who = some .called) :
    ∃ rest, g.line = (who, .called) :: rest := by
  obtain ⟨ahead, rest, hline, _⟩ := List.lookup_eq_some_iff.mp hturn
  cases ahead with
  | nil => exact ⟨rest, hline⟩
  | cons first more =>
      have hmem : (who, .called) ∈ g.line.tail := by
        rw [hline]
        exact List.mem_append_right _ List.mem_cons_self
      exact absurd rfl (h.waiting _ hmem)

/-- Who was called goes through a free gate; no one else was called. -/
theorem Free.take_drop {g : Gate} (h : g.Free) {who : Nat} (hturn : g.turn? who = some .called) :
    (g.drop who).take.Taken := by
  obtain ⟨rest, hline⟩ := h.called_first hturn
  refine ⟨rfl, fun place hplace => ?_⟩
  obtain ⟨hmem, hother⟩ := List.mem_filter.mp hplace
  rw [hline, List.mem_cons] at hmem
  obtain rfl | hrest := hmem
  · simp at hother
  · exact h.waiting place (by rw [hline]; exact hrest)

theorem withdraw_called {g : Gate} {who : Nat} {place : Nat × Turn}
    (h : place ∈ (g.withdraw who).line) (hcalled : place.2 = .called) : place ∈ g.line := by
  simp only [withdraw, List.mem_map] at h
  obtain ⟨⟨other, turn⟩, hmem, rfl⟩ := h
  dsimp only at hcalled ⊢
  split at hcalled
  next => cases hcalled
  next hnot => simpa [hnot] using hmem

theorem Taken.withdraw {g : Gate} (h : g.Taken) (who : Nat) : (g.withdraw who).Taken :=
  ⟨h.held, fun place hplace hcalled => h.waiting place (withdraw_called hplace hcalled) hcalled⟩

theorem Free.withdraw {g : Gate} (h : g.Free) (who : Nat) : (g.withdraw who).Free := by
  refine ⟨h.open_, fun place hplace hcalled => ?_⟩
  have hmem : place ∈ (Gate.withdraw { g with line := g.line.tail } who).line := by
    simpa [Gate.withdraw, List.map_tail] using hplace
  exact h.waiting place (withdraw_called hmem hcalled) hcalled

end Gate

end DesignBridge
