/-! # The registry of executors

At most one executor is current. Registering a handle replaces the one before unconditionally;
unregistering clears the registry only for the handle that is still current, so a late close of a
superseded executor never clears its successor. Listeners hear of every change, one after the other
in the order in which they were added. A listener may call the registry itself; such a call is
carried out, with all that it causes, at the point where the listener makes it. Whatever a listener
does wrong is dropped.
-/

namespace DesignBridge

namespace Registry

/-- A call on the registry. -/
inductive Call (H : Type) where
  | register (handle : Option H)
  | unregister (handle : Option H)
  /-- Asks who is current, and whether the time of the last connect is set. -/
  | look
  deriving DecidableEq

/-- A change of the handle that is current. It goes by how much had happened before it. -/
structure Change (H : Type) where
  number : Nat
  previous : Option H
  current : Option H
  deriving DecidableEq

/-- What a listener hears. Listeners stand in places, from zero on. -/
structure Notice (H : Type) where
  place : Nat
  listener : String
  change : Change H
  deriving DecidableEq

def Notice.previous {H : Type} (notice : Notice H) : Option H := notice.change.previous

def Notice.current {H : Type} (notice : Notice H) : Option H := notice.change.current

/-- Something that happens on the registry: a call with the answer to it, or that a listener hears
of a change. A call goes by how much had happened before it; `inside` are the places of the
listeners that were still hearing of a change when one of them made it, that one first. -/
inductive Event (H : Type) where
  | registered (number : Nat) (inside : List Nat) (handle previous : Option H)
  | unregistered (number : Nat) (inside : List Nat) (handle : Option H) (cleared : Bool)
  | looked (inside : List Nat) (current : Option H) (stamped : Bool)
  | heard (notice : Notice H)
  deriving DecidableEq

/-- What a listener does when it hears of a change: it calls the registry, once or several times,
and then returns or fails. What it does after a call may depend on all that has happened by then,
the answer included. -/
inductive Reaction (H : Type) where
  | returns
  | fails (reason : String)
  | calls (call : Call H) (next : List (Event H) → Reaction H)

/-- A listener. What it does may depend on all that has happened, and not on the change alone. -/
structure Listener (H : Type) where
  name : String
  react : List (Event H) → Option H → Option H → Reaction H

/-- A listener that heeds the change alone: what it registers, one after the other. One that fails
registers nothing. -/
structure Habit (H : Type) where
  name : String
  react : Option H → Option H → Except String (List (Option H))

end Registry

/-- The registry. `stamped` tells whether the time of the last connect is set. -/
structure Registry (H : Type) where
  current : Option H
  stamped : Bool
  listeners : List (Registry.Listener H)

namespace Registry

variable {H : Type}

/-- Registers handles, one after the other. -/
def Reaction.ofHandles (handles : List (Option H)) : Reaction H :=
  handles.foldr (fun handle rest => .calls (.register handle) fun _ => rest) .returns

def Habit.listener (habit : Habit H) : Listener H where
  name := habit.name
  react _ previous current := match habit.react previous current with
    | .ok handles => .ofHandles handles
    | .error reason => .fails reason

/-- The registry that knows no one. -/
def empty : Registry H := ⟨none, false, []⟩

instance : Inhabited (Registry H) := ⟨empty⟩

/-- Whether an executor is connected. -/
def isAvailable (r : Registry H) : Bool :=
  r.current.isSome

/-- Adds a listener, which hears of changes after all others. -/
def add (r : Registry H) (listener : Listener H) : Registry H :=
  { r with listeners := r.listeners ++ [listener] }

/-- Adds a listener that heeds the change alone. -/
def listen (r : Registry H) (habit : Habit H) : Registry H :=
  r.add habit.listener

/-- A registry, and what has happened on it, the latest last. -/
structure Chronicle (H : Type) where
  registry : Registry H
  log : List (Event H)

/-- Nothing has happened yet. -/
def Chronicle.fresh : Chronicle H := ⟨empty, []⟩

/-- Notes that a listener hears of a change. -/
def Chronicle.note (s : Chronicle H) (notice : Notice H) : Chronicle H :=
  { s with log := s.log ++ [.heard notice] }

@[simp] theorem Chronicle.registry_note (s : Chronicle H) (notice : Notice H) :
    (s.note notice).registry = s.registry := rfl

@[simp] theorem Chronicle.log_note (s : Chronicle H) (notice : Notice H) :
    (s.note notice).log = s.log ++ [.heard notice] := rfl

variable [DecidableEq H]

/-- The change that is told of after a call, if the call changes anything. -/
def Event.change? : Event H → Option (Change H)
  | registered number _ handle previous =>
    if previous = handle then none else some ⟨number, previous, handle⟩
  | unregistered number _ handle true => some ⟨number, handle, none⟩
  | _ => none

/-- The registry after a call, before anyone hears of it. -/
def after (r : Registry H) : Call H → Registry H
  -- The time is set anew even when nothing changes that listeners would hear of.
  | .register handle => { r with current := handle, stamped := true }
  | .unregister handle =>
    if r.current = handle then { r with current := none, stamped := false } else r
  | .look => r

namespace Chronicle

/-- A call with the answer to it. -/
def event (s : Chronicle H) (inside : List Nat) : Call H → Event H
  | .register handle => .registered s.log.length inside handle s.registry.current
  | .unregister handle =>
    .unregistered s.log.length inside handle (decide (s.registry.current = handle))
  | .look => .looked inside s.registry.current s.registry.stamped

/-- Takes up a call, before anyone hears of it. -/
def take (s : Chronicle H) (inside : List Nat) (call : Call H) : Chronicle H :=
  ⟨s.registry.after call, s.log ++ [s.event inside call]⟩

/-- Lets a listener do what it does. A call that is refused ends it as a failure would. -/
def obey (carry? : Chronicle H → Call H → Option (Chronicle H)) :
    Chronicle H → Reaction H → Chronicle H
  | s, .returns => s
  | s, .fails _ => s
  | s, .calls call next => match carry? s call with
    | some s => obey carry? s (next s.log)
    | none => s

/-- Tells listeners of a change, beginning with the one in a place. Each does all that it does
before the next one hears. -/
def tell (carry? : Nat → Chronicle H → Call H → Option (Chronicle H)) (change : Change H) :
    Nat → Chronicle H → List (Listener H) → Chronicle H
  | _, s, [] => s
  | place, s, listener :: rest =>
    let s := s.note ⟨place, listener.name, change⟩
    let s := s.obey (carry? place) (listener.react s.log change.previous change.current)
    tell carry? change (place + 1) s rest

/-- Carries out a call with all that it causes. Only those who are listeners by then hear of it. -/
def carry (carry? : List Nat → Chronicle H → Call H → Option (Chronicle H)) (inside : List Nat)
    (s : Chronicle H) (call : Call H) : Chronicle H :=
  match (s.event inside call).change? with
  | none => s.take inside call
  | some change =>
    (s.take inside call).tell (fun place => carry? (place :: inside)) change 0 s.registry.listeners

/-- Carries out a call. The calls that listeners make, and those that listeners make when they hear
of these, nest to a depth; deeper ones are refused. -/
def call : Nat → List Nat → Chronicle H → Call H → Chronicle H
  | 0 => carry fun _ _ _ => none
  | depth + 1 => carry fun inside s c => some (call depth inside s c)

/-- What was heard. -/
def notices (s : Chronicle H) : List (Notice H) :=
  s.log.filterMap fun
    | .heard notice => some notice
    | _ => none

end Chronicle

/-- One thing that is done with a registry from outside. -/
inductive Action (H : Type) where
  | add (listener : Listener H)
  | call (call : Call H)

namespace Chronicle

/-- What has happened after an action. -/
def act (depth : Nat) (s : Chronicle H) : Action H → Chronicle H
  | .add listener => { s with registry := s.registry.add listener }
  | .call c => s.call depth [] c

/-- What has happened after a history. -/
def play (depth : Nat) (s : Chronicle H) (history : List (Action H)) : Chronicle H :=
  history.foldl (act depth) s

end Chronicle

/-- A registry and what was heard on the way to it. -/
abbrev Heard (H : Type) := Registry H × List (Notice H)

/-- Carries out one call, as if nothing had happened before. -/
def carryOut (depth : Nat) (r : Registry H) (call : Call H) : Heard H :=
  let s := Chronicle.call depth [] ⟨r, []⟩ call
  (s.registry, s.notices)

/-- Makes a handle current; listeners hear of it if it was not current before. -/
def register (depth : Nat) (r : Registry H) (handle : Option H) : Heard H :=
  r.carryOut depth (.register handle)

/-- Clears the registry if a handle is current; also tells whether it was. -/
def unregister (depth : Nat) (r : Registry H) (handle : Option H) : Heard H × Bool :=
  (r.carryOut depth (.unregister handle), decide (r.current = handle))

/-! ## Small facts -/

variable (r : Registry H) (s : Chronicle H)

@[simp] theorem listeners_after (call : Call H) : (r.after call).listeners = r.listeners := by
  cases call with
  | register | look => rfl
  | unregister handle =>
      simp only [after]
      split <;> rfl

namespace Chronicle

@[simp] theorem registry_take (inside : List Nat) (call : Call H) :
    (s.take inside call).registry = s.registry.after call := rfl

@[simp] theorem log_take (inside : List Nat) (call : Call H) :
    (s.take inside call).log = s.log ++ [s.event inside call] := rfl

/-- What nested calls come to is all that the depth decides. -/
theorem call_eq_carry (depth : Nat) (inside : List Nat) (call : Call H) :
    ∃ carry?, s.call depth inside call = s.carry carry? inside call := by
  cases depth with
  | zero => exact ⟨_, rfl⟩
  | succ depth => exact ⟨_, rfl⟩

end Chronicle

/-- Where no one listens, a call is all that happens. -/
theorem carryOut_of_unheard (depth : Nat) (call : Call H) (h : r.listeners = []) :
    (r.carryOut depth call).1 = r.after call := by
  obtain ⟨carry?, hcarry⟩ := Chronicle.call_eq_carry ⟨r, []⟩ depth [] call
  unfold carryOut
  dsimp only
  rw [hcarry, Chronicle.carry, h]
  split <;> rfl

/-- Whoever is not current cannot clear the registry. -/
theorem carryOut_unregister_of_ne (depth : Nat) {handle : Option H} (h : r.current ≠ handle) :
    (r.carryOut depth (.unregister handle)).1 = r := by
  obtain ⟨carry?, hcarry⟩ := Chronicle.call_eq_carry ⟨r, []⟩ depth [] (.unregister handle)
  have hchange : ((⟨r, []⟩ : Chronicle H).event [] (.unregister handle)).change? = none := by
    simp [Chronicle.event, Event.change?, h]
  unfold carryOut
  dsimp only
  rw [hcarry, Chronicle.carry, hchange]
  exact if_neg h

end Registry

end DesignBridge
