import DesignBridge.Relay.World

/-! # Actions on the relay

Everything that can happen to the relay's world, one thing at a time. A history is a list of
actions: submissions that can go on do so in any order, outside events come between any two of
their steps, and the clock never goes back.
-/

namespace DesignBridge

/-- One thing that happens. -/
inductive RelayAction where
  | connect (peer : String)
  | register (connection : Nat)
  | unregister (connection : Nat)
  | submit (body : Json.Members)
  | deliver (connection : Nat) (frame : String)
  | setLink (connection : Nat) (link : Link)
  | close (connection : Nat) (code : Int) (reason : String)
  | cancel (submission : Nat)
  /-- A submission takes a step, if it can go on. -/
  | resume (submission : Nat)
  /-- Time passes; a length that is not positive is none. -/
  | wait (seconds : Time)

namespace World

/-- Lets the first submission that can go on take a step. -/
def turn (mint : Nat → String) (w : World) : World :=
  match w.ready with
  | [] => w
  | i :: _ => w.resume mint i

/-- The world after an action. -/
def act (mint : Nat → String) (w : World) : RelayAction → World
  | .connect peer => (w.connect peer).1
  | .register c => w.register c
  | .unregister c => (w.unregister c).1
  | .submit body => (w.submit body).1
  | .deliver c frame => (w.deliver c frame).1
  | .setLink c link => w.setLink c link
  | .close c code reason => w.close c code reason
  | .cancel i => w.cancel i
  | .resume i => if i ∈ w.ready then w.resume mint i else w
  | .wait seconds => if seconds ≤ 0 then w else w.setNow (w.now + seconds)

/-- A turn is one of the steps that submissions take, in whatever order. -/
theorem turn_eq_act (mint : Nat → String) (w : World) :
    w.turn mint = w ∨ ∃ i, w.turn mint = w.act mint (.resume i) := by
  cases h : w.ready with
  | nil => exact Or.inl (by simp [turn, h])
  | cons i rest => exact Or.inr ⟨i, by simp [turn, act, h]⟩

/-- The world after a history. -/
def play (mint : Nat → String) (w : World) (history : List RelayAction) : World :=
  history.foldl (act mint) w

@[simp] theorem play_nil (mint : Nat → String) (w : World) : w.play mint [] = w := rfl

@[simp] theorem play_cons (mint : Nat → String) (w : World) (action : RelayAction)
    (history : List RelayAction) :
    w.play mint (action :: history) = (w.act mint action).play mint history := rfl

theorem play_append (mint : Nat → String) (w : World) (first second : List RelayAction) :
    w.play mint (first ++ second) = (w.play mint first).play mint second :=
  List.foldl_append

end World

end DesignBridge
