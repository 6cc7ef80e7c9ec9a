import DesignBridge.Proofs.Relay.Registering
import Mathlib.Data.List.Perm.Basic

/-! # Who hears of what, and when

Every listener hears of every change from its adding on, once. A change that a listener makes while
it hears of another is told at once: to the listeners behind that one before the other change, to
itself and those before it after. So a listener hears of changes in the order in which they happen
just if no listener before it makes one while hearing.
-/

namespace DesignBridge.Registry

variable {H : Type}

/-! ## Changes and what is heard of them -/

/-- The change that the listener in a place hears of by an event. -/
def Event.heardAt? (place : Nat) : Event H → Option (Change H)
  | heard notice => if notice.place = place then some notice.change else none
  | _ => none

/-- The changes that the listener in a place hears of, in the order in which it does. -/
def heardAt (place : Nat) (log : List (Event H)) : List (Change H) :=
  log.filterMap (Event.heardAt? place)

/-- The places of the listeners that were hearing of a change when a call was made. -/
def Event.inside : Event H → List Nat
  | registered _ inside _ _ => inside
  | unregistered _ inside _ _ => inside
  | looked inside _ _ => inside
  | heard _ => []

/-- Whether changes lead from one handle to another, each beginning where the one before ends. -/
def Leads : Option H → List (Change H) → Option H → Prop
  | a, [], b => a = b
  | a, change :: rest, b => change.previous = a ∧ Leads change.current rest b

/-- Whether changes stand in the order in which they happened. -/
def InOrder (list : List (Change H)) : Prop :=
  list.Pairwise (·.number < ·.number)

@[simp] theorem heardAt_append (place : Nat) (front back : List (Event H)) :
    heardAt place (front ++ back) = heardAt place front ++ heardAt place back :=
  List.filterMap_append

theorem heardAt_cons_of_none {place : Nat} {event : Event H} (h : event.heardAt? place = none)
    (log : List (Event H)) : heardAt place (event :: log) = heardAt place log :=
  List.filterMap_cons_none h

theorem heardAt?_of_ne {place : Nat} {notice : Notice H} (h : notice.place ≠ place) :
    (Event.heard notice).heardAt? place = none :=
  if_neg h

theorem Leads.append {a b c : Option H} {front back : List (Change H)} (h : Leads a front b)
    (h' : Leads b back c) : Leads a (front ++ back) c := by
  induction front generalizing a with
  | nil => exact (show a = b from h) ▸ h'
  | cons change rest ih => exact ⟨h.1, ih h.2⟩

variable [DecidableEq H]

/-- The changes in a log, in the order in which they happened. -/
def changes (log : List (Event H)) : List (Change H) :=
  log.filterMap Event.change?

instance Leads.decidable : ∀ (a : Option H) (list : List (Change H)) (b : Option H),
    Decidable (Leads a list b)
  | a, [], b => inferInstanceAs (Decidable (a = b))
  | a, change :: rest, b =>
    have := Leads.decidable change.current rest b
    inferInstanceAs (Decidable (change.previous = a ∧ Leads change.current rest b))

/-- Whether no listener before a place makes a change while hearing. Of the listeners that hear when
a change is made, `outer` do not count. -/
def Undisturbed (place : Nat) (outer : List Nat) (log : List (Event H)) : Prop :=
  ∀ event ∈ log, event.change?.isSome = true →
    ∀ inner, event.inside = inner ++ outer → ∀ other ∈ inner, place ≤ other

@[simp] theorem changes_append (front back : List (Event H)) :
    changes (front ++ back) = changes front ++ changes back :=
  List.filterMap_append

theorem heardAt?_of_change {place : Nat} {event : Event H} {change : Change H}
    (h : event.change? = some change) : event.heardAt? place = none := by
  cases event with
  | heard notice => cases h
  | _ => rfl

theorem changes_eq_nil_iff {log : List (Event H)} :
    changes log = [] ↔ ∀ event ∈ log, event.change? = none :=
  List.filterMap_eq_nil_iff

section

variable {place : Nat} {outer : List Nat} {event : Event H} {front back log : List (Event H)}

theorem undisturbed_append : Undisturbed place outer (front ++ back) ↔
    Undisturbed place outer front ∧ Undisturbed place outer back :=
  List.forall_mem_append

theorem undisturbed_of_changes_eq_nil (h : changes log = []) : Undisturbed place outer log := by
  intro event hevent hchange
  rw [changes_eq_nil_iff.mp h event hevent] at hchange
  cases hchange

/-- What is not a change, and what no listener that counts makes, disturbs no one. -/
theorem undisturbed_cons (h : event.change?.isSome = true → event.inside = outer) :
    Undisturbed place outer (event :: log) ↔ Undisturbed place outer log := by
  refine List.forall_mem_cons.trans (and_iff_right fun hchange inner hinner other hother => ?_)
  obtain rfl : inner = [] := by simpa [h hchange] using hinner
  cases hother

end

/-! ## What calls make -/

/-- What is known of the changes that calls make, when as many events as `base` came before, and the
listeners in the places `outer` are hearing: they lead from one handle to the next, and go by how
much had happened before. -/
structure Made (base : Nat) (outer : List Nat) (a : Option H) (log : List (Event H))
    (b : Option H) : Prop where
  leads : Leads a (changes log) b
  nested : ∀ event ∈ log, event.change?.isSome = true → outer <:+ event.inside
  numbered : ∀ change ∈ changes log, base ≤ change.number ∧ change.number < base + log.length
  inOrder : InOrder (changes log)

namespace Made

variable {base place other : Nat} {outer : List Nat} {a b c : Option H}
  {front back log : List (Event H)}

theorem append (h : Made base outer a front b) (h' : Made (base + front.length) outer b back c) :
    Made base outer a (front ++ back) c where
  leads := changes_append front back ▸ h.leads.append h'.leads
  nested := List.forall_mem_append.mpr ⟨h.nested, h'.nested⟩
  numbered := by
    rw [changes_append, List.forall_mem_append, List.length_append]
    refine ⟨fun change hchange => ?_, fun change hchange => ?_⟩
    · have := h.numbered change hchange
      omega
    · have := h'.numbered change hchange
      omega
  inOrder := by
    rw [InOrder, changes_append, List.pairwise_append]
    refine ⟨h.inOrder, h'.inOrder, fun first hfirst second hsecond => ?_⟩
    exact Nat.lt_of_lt_of_le (h.numbered first hfirst).2 (h'.numbered second hsecond).1

/-- Where nothing changes, what happens may be anything. -/
theorem of_unchanged (h : changes log = []) : Made base outer a log a where
  leads := by rw [h]; rfl
  nested event hevent hchange := by
    rw [changes_eq_nil_iff.mp h event hevent] at hchange
    cases hchange
  numbered := by simp [h]
  inOrder := by simp [InOrder, h]

theorem note (notice : Notice H) : Made base outer a [.heard notice] a :=
  of_unchanged rfl

theorem single {event : Event H} {change : Change H} (h : event.change? = some change)
    (hinside : event.inside = outer) (hnumber : change.number = base)
    (hprevious : change.previous = a) : Made base outer a [event] change.current where
  leads := by simpa [changes, h] using ⟨hprevious, rfl⟩
  nested := by simp [hinside]
  numbered := by simp [changes, h, hnumber]
  inOrder := by simp [InOrder, changes, h]

theorem widen (h : Made base (other :: outer) a log b) : Made base outer a log b where
  leads := h.leads
  nested event hevent hchange :=
    (List.suffix_cons other outer).trans (h.nested event hevent hchange)
  numbered := h.numbered
  inOrder := h.inOrder

/-- What a listener makes while hearing disturbs none in its place or before. -/
theorem undisturbed_iff_of_le (h : Made base (other :: outer) a log b) (hplace : place ≤ other) :
    Undisturbed place outer log ↔ Undisturbed place (other :: outer) log := by
  refine forall₂_congr fun event hevent => forall_congr' fun hchange => ?_
  obtain ⟨inner, hinner⟩ := h.nested event hevent hchange
  have hinner' : event.inside = (inner ++ [other]) ++ outer := by simp [← hinner]
  constructor
  · intro hundisturbed inner₀ hinner₀ k hk
    refine hundisturbed (inner₀ ++ [other]) (by simp [hinner₀]) k (List.mem_append_left _ hk)
  · intro hundisturbed inner₀ hinner₀ k hk
    obtain rfl := List.append_cancel_right (hinner'.symm.trans hinner₀)
    rcases List.mem_append.mp hk with hk | hk
    · exact hundisturbed inner hinner.symm k hk
    · exact List.mem_singleton.mp hk ▸ hplace

/-- And any change disturbs those behind it. -/
theorem undisturbed_iff_of_lt (h : Made base (other :: outer) a log b) (hplace : other < place) :
    Undisturbed place outer log ↔ changes log = [] := by
  refine ⟨fun hundisturbed => changes_eq_nil_iff.mpr fun event hevent => ?_,
    undisturbed_of_changes_eq_nil⟩
  by_contra hchange
  have hsome : event.change?.isSome = true := Option.isSome_iff_ne_none.mpr hchange
  obtain ⟨inner, hinner⟩ := h.nested event hevent hsome
  have hsplit : event.inside = (inner ++ [other]) ++ outer := by simp [← hinner]
  have hle := hundisturbed event hevent hsome (inner ++ [other]) hsplit other (by simp)
  omega

end Made

/-! ## What is heard of it -/

/-- What is known of what the listener in a place hears, when some changes are due to it already: it
hears of these and of all that are made, once each, and in order just if no listener before it makes
any. -/
structure Hears (place : Nat) (outer : List Nat) (due : List (Change H))
    (log : List (Event H)) : Prop where
  each : (heardAt place log).Perm (due ++ changes log)
  inOrder_iff : InOrder (heardAt place log) ↔ Undisturbed place outer log

namespace Hears

variable {base place other : Nat} {outer : List Nat} {due : List (Change H)} {change : Change H}
  {a b c : Option H} {event : Event H} {front back log : List (Event H)}

/-- Where nothing changes and the listener hears of nothing, nothing is due to it. -/
theorem of_idle (h : changes log = []) (h' : heardAt place log = []) :
    Hears place outer [] log where
  each := by rw [h, h']; exact .nil
  inOrder_iff := by
    rw [h']
    exact iff_of_true .nil (undisturbed_of_changes_eq_nil h)

theorem note (notice : Notice H) :
    Hears notice.place outer [notice.change] [.heard notice] where
  each := by simp [heardAt, Event.heardAt?, changes, Event.change?]
  inOrder_iff := by
    refine iff_of_true ?_ (undisturbed_of_changes_eq_nil rfl)
    simp [InOrder, heardAt, Event.heardAt?]

theorem cons_idle (h : event.change? = none) (h' : event.heardAt? place = none)
    (hlog : Hears place outer due log) : Hears place outer due (event :: log) where
  each := by
    rw [heardAt_cons_of_none h']
    simpa [changes, h] using hlog.each
  inOrder_iff := by
    rw [undisturbed_cons (by simp [h]), heardAt_cons_of_none h', hlog.inOrder_iff]

/-- A call from where only those hear that do not count makes a change, which is due from then
on. -/
theorem cons_change (h : event.change? = some change) (hinside : event.inside = outer)
    (hlog : Hears place outer [change] log) : Hears place outer [] (event :: log) where
  each := by
    rw [heardAt_cons_of_none (heardAt?_of_change h)]
    simpa [changes, h] using hlog.each
  inOrder_iff := by
    rw [undisturbed_cons fun _ => hinside, heardAt_cons_of_none (heardAt?_of_change h),
      hlog.inOrder_iff]

theorem append (h : Hears place outer due front) (h' : Hears place outer [] back)
    (hmade : Made base outer a front b) (hmade' : Made (base + front.length) outer b back c)
    (hdue : ∀ change ∈ due, change.number < base) : Hears place outer due (front ++ back) where
  each := by
    rw [heardAt_append, changes_append, ← List.append_assoc]
    exact h.each.append h'.each
  inOrder_iff := by
    rw [InOrder, heardAt_append, List.pairwise_append, undisturbed_append, ← h.inOrder_iff,
      ← h'.inOrder_iff]
    refine ⟨fun hall => ⟨hall.1, hall.2.1⟩,
      fun hboth => ⟨hboth.1, hboth.2, fun first hfirst second hsecond => ?_⟩⟩
    have hlate := (hmade'.numbered second (h'.each.subset hsecond)).1
    rcases List.mem_append.mp (h.each.subset hfirst) with hfirst | hfirst
    · have := hdue first hfirst
      omega
    · have := hmade.numbered first hfirst
      omega

/-- What a listener in this place or behind makes comes in order. -/
theorem behind (h : Hears place (other :: outer) due log)
    (hmade : Made base (other :: outer) a log b) (hplace : place ≤ other) :
    Hears place outer due log :=
  ⟨h.each, h.inOrder_iff.trans (hmade.undisturbed_iff_of_le hplace).symm⟩

/-- But what a listener before this place makes while it hears of a change comes before that change,
which is heard of later. -/
theorem append_before (h : Hears place (other :: outer) [] front)
    (h' : Hears place outer [change] back) (hmade : Made base (other :: outer) a front b)
    (hplace : other < place) (hdue : change.number < base) :
    Hears place outer [change] (front ++ back) where
  each := by
    rw [heardAt_append, changes_append]
    refine (h.each.append h'.each).trans ?_
    rw [← List.append_assoc [change]]
    exact (List.perm_append_comm.append_right _).trans (by simp)
  inOrder_iff := by
    rw [InOrder, heardAt_append, List.pairwise_append, undisturbed_append,
      hmade.undisturbed_iff_of_lt hplace, ← h'.inOrder_iff]
    constructor
    · rintro ⟨_, hback, hbefore⟩
      refine ⟨List.eq_nil_iff_forall_not_mem.mpr fun early hearly => ?_, hback⟩
      have hheard := h.each.symm.subset hearly
      have hlate := hbefore early hheard change (h'.each.symm.subset (by simp))
      have := hmade.numbered early hearly
      omega
    · rintro ⟨hnone, hback⟩
      have hheard : heardAt place front = [] := by simpa [hnone] using h.each
      rw [hheard]
      exact ⟨.nil, hback, by simp⟩

end Hears

/-- What is known of what happens when there are `n` listeners, and some changes are due to them. -/
structure Told (n base : Nat) (outer : List Nat) (due : Nat → List (Change H)) (a : Option H)
    (log : List (Event H)) (b : Option H) : Prop extends Made base outer a log b where
  hears : ∀ place < n, Hears place outer (due place) log
  unheard : ∀ place, n ≤ place → heardAt place log = []

namespace Told

variable {n base place : Nat} {outer : List Nat} {due : Nat → List (Change H)} {change : Change H}
  {a b c : Option H} {front back log : List (Event H)}

theorem of_idle (h : changes log = []) (h' : ∀ place, heardAt place log = []) :
    Told n base outer (fun _ => []) a log a where
  toMade := .of_unchanged h
  hears place _ := .of_idle h (h' place)
  unheard place _ := h' place

theorem append (h : Told n base outer (fun _ => []) a front b)
    (h' : Told n (base + front.length) outer (fun _ => []) b back c) :
    Told n base outer (fun _ => []) a (front ++ back) c where
  toMade := h.toMade.append h'.toMade
  hears place hplace :=
    (h.hears place hplace).append (h'.hears place hplace) h.toMade h'.toMade (by simp)
  unheard place hplace := by simp [h.unheard place hplace, h'.unheard place hplace]

/-- A call makes a change, and all listeners hear of it. -/
theorem cons_change {event : Event H} (h : event.change? = some change)
    (hinside : event.inside = outer) (hnumber : change.number = base)
    (hprevious : change.previous = a)
    (hlog : Told n (base + 1) outer (fun _ => [change]) change.current log b) :
    Told n base outer (fun _ => []) a (event :: log) b where
  toMade := (Made.single h hinside hnumber hprevious).append hlog.toMade
  hears place hplace := (hlog.hears place hplace).cons_change h hinside
  unheard place hplace :=
    (heardAt_cons_of_none (heardAt?_of_change h) log).trans (hlog.unheard place hplace)

/-- A listener hears of a change and does what it does, then those behind it hear. -/
theorem tell {name : String} (hplace : place < n) (hchange : change.number < base)
    (h : Told n (base + 1) (place :: outer) (fun _ => []) a front b)
    (h' : Told n (base + 1 + front.length) outer (fun q => if place + 1 ≤ q then [change] else [])
      b back c) :
    Told n base outer (fun q => if place ≤ q then [change] else []) a
      (.heard ⟨place, name, change⟩ :: (front ++ back)) c where
  toMade := (Made.note ⟨place, name, change⟩).append (h.toMade.widen.append h'.toMade)
  hears q hq := by
    have hfront := h.hears q hq
    have hback := h'.hears q hq
    -- Before this place the change was heard of already, behind it that is still to come.
    rcases Nat.lt_trichotomy q place with hlt | rfl | hlt
    · rw [if_neg (by omega)] at hback ⊢
      refine .cons_idle rfl (heardAt?_of_ne (Nat.ne_of_gt hlt)) ?_
      have hbehind := hfront.behind h.toMade (Nat.le_of_lt hlt)
      exact hbehind.append hback h.toMade.widen h'.toMade (by simp)
    · rw [if_neg (by omega)] at hback
      rw [if_pos (Nat.le_refl _)]
      have hbehind := hfront.behind h.toMade (Nat.le_refl _)
      have hlater := hbehind.append hback h.toMade.widen h'.toMade (by simp)
      exact (Hears.note ⟨q, name, change⟩).append hlater (Made.note _)
        (h.toMade.widen.append h'.toMade) (by simpa using hchange)
    · rw [if_pos (by omega)] at hback ⊢
      refine .cons_idle rfl (heardAt?_of_ne (Nat.ne_of_lt hlt)) ?_
      exact hfront.append_before hback h.toMade hlt (by omega)
  unheard q hq := by
    have hother : place ≠ q := by omega
    rw [heardAt_cons_of_none (heardAt?_of_ne hother), heardAt_append, h.unheard q hq,
      h'.unheard q hq, List.append_nil]

end Told

/-! ## What calls tell -/

namespace Chronicle

/-- Whether what happens from one moment to another, when there are `n` listeners, is told as it
should be. -/
structure Passes (n : Nat) (due : Nat → List (Change H)) (outer : List Nat) (s t : Chronicle H) :
    Prop where
  listeners : t.registry.listeners.length = n
  told : ∃ new, t.log = s.log ++ new ∧
    Told n s.log.length outer due s.registry.current new t.registry.current

section

variable {n place : Nat} {outer inside : List Nat} {change : Change H} {s t u : Chronicle H}

theorem Passes.refl (h : s.registry.listeners.length = n) :
    Passes n (fun _ => []) outer s s where
  listeners := h
  told := ⟨[], (List.append_nil _).symm, .of_idle rfl fun _ => rfl⟩

theorem Passes.trans (h : Passes n (fun _ => []) outer s t)
    (h' : Passes n (fun _ => []) outer t u) : Passes n (fun _ => []) outer s u where
  listeners := h'.listeners
  told := by
    obtain ⟨front, hfront, htold⟩ := h.told
    obtain ⟨back, hback, htold'⟩ := h'.told
    rw [hfront, List.length_append] at htold'
    exact ⟨front ++ back, by rw [hback, hfront, List.append_assoc], htold.append htold'⟩

theorem Passes.length_le {due : Nat → List (Change H)} (h : Passes n due outer s t) :
    s.log.length ≤ t.log.length := by
  obtain ⟨new, hnew, _⟩ := h.told
  simp [hnew]

theorem Passes.tell {name : String} (hplace : place < n) (hchange : change.number < s.log.length)
    (h : Passes n (fun _ => []) (place :: outer) (s.note ⟨place, name, change⟩) t)
    (h' : Passes n (fun q => if place + 1 ≤ q then [change] else []) outer t u) :
    Passes n (fun q => if place ≤ q then [change] else []) outer s u where
  listeners := h'.listeners
  told := by
    obtain ⟨front, hfront, htold⟩ := h.told
    obtain ⟨back, hback, htold'⟩ := h'.told
    rw [log_note] at hfront htold
    rw [hfront] at hback htold'
    simp only [List.length_append, List.length_singleton] at htold htold'
    exact ⟨.heard ⟨place, name, change⟩ :: (front ++ back), hback.trans (by simp),
      htold.tell hplace hchange htold'⟩

theorem passes_obey {carry? : Chronicle H → Call H → Option (Chronicle H)}
    (hcarry : ∀ s call t, s.registry.listeners.length = n → carry? s call = some t →
      Passes n (fun _ => []) outer s t)
    (reaction : Reaction H) (h : s.registry.listeners.length = n) :
    Passes n (fun _ => []) outer s (s.obey carry? reaction) := by
  induction reaction generalizing s with
  | returns => exact .refl h
  | fails reason => exact .refl h
  | calls call next ih =>
      unfold obey
      cases hcall : carry? s call with
      | none => exact .refl h
      | some t =>
          have hfirst := hcarry s call t h hcall
          exact hfirst.trans (ih t.log hfirst.listeners)

theorem passes_tell {carry? : Nat → Chronicle H → Call H → Option (Chronicle H)}
    (hcarry : ∀ place s call t, s.registry.listeners.length = n → carry? place s call = some t →
      Passes n (fun _ => []) (place :: outer) s t)
    (change : Change H) (place : Nat) (listeners : List (Listener H))
    (hplace : place + listeners.length = n) (h : s.registry.listeners.length = n)
    (hchange : change.number < s.log.length) :
    Passes n (fun q => if place ≤ q then [change] else []) outer s
      (s.tell carry? change place listeners) := by
  induction listeners generalizing place s with
  | nil =>
      refine ⟨h, [], (List.append_nil _).symm, .of_unchanged rfl, fun q hq => ?_, fun _ _ => rfl⟩
      rw [if_neg (by simp at hplace; omega)]
      exact .of_idle rfl rfl
  | cons listener rest ih =>
      rw [List.length_cons] at hplace
      have hobey : Passes n _ (place :: outer) (s.note ⟨place, listener.name, change⟩) _ :=
        passes_obey (hcarry place) (listener.react
          (s.note ⟨place, listener.name, change⟩).log change.previous change.current) h
      have hnoted : change.number < (s.note ⟨place, listener.name, change⟩).log.length := by
        rw [log_note, List.length_append]
        omega
      exact .tell (by omega) hchange hobey (ih (place + 1) (by omega) hobey.listeners
        (Nat.lt_of_lt_of_le hnoted hobey.length_le))

section

variable {call : Call H}

theorem inside_event : (s.event inside call).inside = inside := by
  cases call <;> rfl

theorem heardAt?_event : (s.event inside call).heardAt? place = none := by
  cases call <;> rfl

/-- What changes by a call is who is current. -/
theorem event_of_change (h : (s.event inside call).change? = some change) :
    change.number = s.log.length ∧ change.previous = s.registry.current ∧
      change.current = (s.registry.after call).current := by
  cases call with
  | look => cases h
  | register handle =>
      by_cases hsame : s.registry.current = handle
      · simp [event, Event.change?, hsame] at h
      · obtain rfl : _ = change := by simpa [event, Event.change?, hsame] using h
        exact ⟨rfl, rfl, rfl⟩
  | unregister handle =>
      by_cases hsame : s.registry.current = handle
      · obtain rfl : _ = change := by simpa [event, Event.change?, hsame] using h
        exact ⟨rfl, hsame.symm, by simp [Registry.after, hsame]⟩
      · simp [event, Event.change?, hsame] at h

theorem current_after_of_unchanged (h : (s.event inside call).change? = none) :
    (s.registry.after call).current = s.registry.current := by
  cases call with
  | look => rfl
  | register handle => simpa [event, Event.change?, eq_comm, Registry.after] using h
  | unregister handle =>
      by_cases hsame : s.registry.current = handle
      · simp [event, Event.change?, hsame] at h
      · simp [Registry.after, hsame]

end

theorem passes_carry {carry? : List Nat → Chronicle H → Call H → Option (Chronicle H)}
    (hcarry : ∀ place s call t, s.registry.listeners.length = n →
      carry? (place :: inside) s call = some t → Passes n (fun _ => []) (place :: inside) s t)
    (call : Call H) (h : s.registry.listeners.length = n) :
    Passes n (fun _ => []) inside s (s.carry carry? inside call) := by
  have hlisteners : (s.take inside call).registry.listeners.length = n := by simpa using h
  unfold carry
  split
  next hchange =>
    refine ⟨hlisteners, [s.event inside call], rfl, ?_⟩
    rw [registry_take, current_after_of_unchanged hchange]
    refine .of_idle (by simp [changes, hchange]) fun place => ?_
    exact heardAt_cons_of_none heardAt?_event []
  next change hchange =>
    obtain ⟨hnumber, hprevious, hcurrent⟩ := event_of_change hchange
    have htell := passes_tell hcarry change 0 s.registry.listeners (by omega) hlisteners
      (by simp [hnumber])
    obtain ⟨new, hnew, htold⟩ := htell.told
    refine ⟨htell.listeners, s.event inside call :: new, ?_, ?_⟩
    · rw [hnew, log_take, List.append_assoc, List.singleton_append]
    · refine Told.cons_change hchange inside_event hnumber hprevious ?_
      simpa [hcurrent] using htold

/-- A call passes with all that it causes. -/
theorem passes_call (depth : Nat) (inside : List Nat) (call : Call H)
    (h : s.registry.listeners.length = n) :
    Passes n (fun _ => []) inside s (s.call depth inside call) := by
  induction depth generalizing s inside call with
  | zero => exact passes_carry (fun _ _ _ _ _ ht => by cases ht) call h
  | succ depth ih =>
      refine passes_carry (fun place mid nested t hmid ht => ?_) call h
      obtain rfl := Option.some.inj ht
      exact ih (place :: inside) nested hmid

end

/-! ## Histories -/

section

variable {s : Chronicle H} {place : Nat}

theorem unheard_act (depth : Nat) (action : Action H)
    (h : ∀ place, s.registry.listeners.length ≤ place → heardAt place s.log = []) :
    ∀ place, (s.act depth action).registry.listeners.length ≤ place →
      heardAt place (s.act depth action).log = [] := by
  intro place hplace
  cases action with
  | add listener =>
      refine h place (Nat.le_trans ?_ hplace)
      simp [act, add]
  | call call =>
      have hpasses : Passes _ (fun _ => []) [] s (s.act depth (.call call)) :=
        passes_call depth [] call rfl
      obtain ⟨new, hnew, htold⟩ := hpasses.told
      rw [hpasses.listeners] at hplace
      rw [hnew, heardAt_append, h place hplace, htold.unheard place hplace, List.append_nil]

/-- No one hears in a place where no listener is. -/
theorem unheard_play (depth : Nat) (history : List (Action H))
    (h : ∀ place, s.registry.listeners.length ≤ place → heardAt place s.log = []) :
    ∀ place, (s.play depth history).registry.listeners.length ≤ place →
      heardAt place (s.play depth history).log = [] := by
  induction history generalizing s with
  | nil => exact h
  | cons action rest ih => exact ih (unheard_act depth action h)

theorem hears_act (depth : Nat) (action : Action H)
    (h : place < s.registry.listeners.length) :
    place < (s.act depth action).registry.listeners.length ∧
      ∃ new, (s.act depth action).log = s.log ++ new ∧ Hears place [] [] new ∧
        Made s.log.length [] s.registry.current new (s.act depth action).registry.current := by
  cases action with
  | add listener =>
      refine ⟨by simp [act, add]; omega, [], (List.append_nil _).symm, .of_idle rfl rfl, ?_⟩
      exact .of_unchanged rfl
  | call call =>
      have hpasses : Passes _ (fun _ => []) [] s (s.act depth (.call call)) :=
        passes_call depth [] call rfl
      obtain ⟨new, hnew, htold⟩ := hpasses.told
      exact ⟨hpasses.listeners ▸ h, new, hnew, htold.hears place h, htold.toMade⟩

/-- A listener hears of what is made in a history from its adding on. -/
theorem hears_play (depth : Nat) (history : List (Action H))
    (h : place < s.registry.listeners.length) :
    ∃ new, (s.play depth history).log = s.log ++ new ∧ Hears place [] [] new ∧
      Made s.log.length [] s.registry.current new (s.play depth history).registry.current := by
  induction history generalizing s with
  | nil => exact ⟨[], (List.append_nil _).symm, .of_idle rfl rfl, .of_unchanged rfl⟩
  | cons action rest ih =>
      obtain ⟨hlater, front, hfront, hhears, hmade⟩ := hears_act depth action h
      obtain ⟨back, hback, hhears', hmade'⟩ := ih hlater
      rw [hfront, List.length_append] at hmade'
      refine ⟨front ++ back, ?_, hhears.append hhears' hmade hmade' (by simp), hmade.append hmade'⟩
      rw [← List.append_assoc, ← hfront]
      exact hback

end

end Chronicle

theorem Hears.heardAt_eq_changes_iff {place base : Nat} {a b : Option H} {log : List (Event H)}
    (h : Hears place [] [] log) (hmade : Made base [] a log b) :
    heardAt place log = changes log ↔
      ∀ event ∈ log, event.change?.isSome = true → ∀ other ∈ event.inside, place ≤ other := by
  have hundisturbed : Undisturbed place [] log ↔
      ∀ event ∈ log, event.change?.isSome = true → ∀ other ∈ event.inside, place ≤ other := by
    simp [Undisturbed]
  rw [← hundisturbed, ← h.inOrder_iff]
  refine ⟨fun heq => heq ▸ hmade.inOrder, fun hinOrder => ?_⟩
  exact h.each.eq_of_pairwise (fun _ _ _ _ hlt hgt => (Nat.lt_asymm hlt hgt).elim) hinOrder
    hmade.inOrder

/-- A listener that is added hears of nothing before. From then on it hears of every change once.
The changes lead from the handle that was current then to the one that is current now, and the
listener hears of them in this order just if no listener added before it makes a change while
hearing. -/
theorem Chronicle.changes_heard (depth : Nat) (first rest : List (Action H))
    (listener : Listener H) :
    let before := Chronicle.fresh.play depth first
    let after := before.play depth (.add listener :: rest)
    let place := before.registry.listeners.length
    ∃ since, after.log = before.log ++ since ∧ heardAt place before.log = [] ∧
      (heardAt place since).Perm (changes since) ∧
      Leads before.registry.current (changes since) after.registry.current ∧
      (heardAt place since = changes since ↔
        ∀ event ∈ since, event.change?.isSome = true →
          ∀ other ∈ event.inside, place ≤ other) := by
  intro before after place
  have hadded : place < (before.act depth (.add listener)).registry.listeners.length := by
    simp [place, act, add]
  obtain ⟨since, hsince, hhears, hmade⟩ := hears_play depth rest hadded
  exact ⟨since, hsince, unheard_play depth first (fun _ _ => rfl) place (Nat.le_refl _),
    hhears.each, hmade.leads, hhears.heardAt_eq_changes_iff hmade⟩

/-- A listener that hears of `a` registers `b`; the one behind it hears of `b` first. -/
theorem changes_heard_out_of_order :
    let chain : Habit String :=
      ⟨"chain", fun _ current => .ok (if current = some "a" then [some "b"] else [])⟩
    let behind : Listener String := ⟨"behind", fun _ _ _ => .returns⟩
    let after := Chronicle.fresh.play 1
      [.add chain.listener, .add behind, .call (.register (some "a"))]
    after.registry.current = some "b" ∧
      (changes after.log).map (fun change => (change.previous, change.current)) =
        [(none, some "a"), (some "a", some "b")] ∧
      (heardAt 1 after.log).map (fun change => (change.previous, change.current)) =
        [(some "a", some "b"), (none, some "a")] ∧
      ¬Leads none (heardAt 1 after.log) after.registry.current := by
  decide

end DesignBridge.Registry
