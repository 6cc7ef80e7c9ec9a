import DesignBridge.Number.Basic

/-! # Backing off

How an executor waits between attempts to connect. The delay grows by half with every attempt, up
to a limit, and is back at its initial value once a connection was made. After a number of failed
attempts in a row the executor gives up.
-/

namespace DesignBridge

/-- The state of waiting between attempts. -/
structure Backoff where
  initial : Number
  delay : Number
  attempts : Nat
  limit : Number
  deriving DecidableEq

namespace Backoff

/-- The longest delay that growing leads to, in seconds. -/
def maxDelay : Float := 10.0

/-- The state before the first attempt. -/
def fresh (initial limit : Number) : Backoff := ⟨initial, initial, 0, limit⟩

/-- The delay after a delay. -/
def grow (delay : Number) : Number :=
  let grown := delay.toFloat * 1.5
  .real (if maxDelay < grown then maxDelay else grown)

/-- The state once a connection was made. -/
def reset (b : Backoff) : Backoff :=
  { b with delay := b.initial, attempts := 0 }

/-- Whether no attempt is left. -/
def isSpent (b : Backoff) : Bool :=
  b.limit.le b.attempts

/-- The delay before the next attempt and the state after it, unless no attempt is left. -/
def next? (b : Backoff) : Option (Number × Backoff) :=
  if b.isSpent then none
  else some (b.delay, { b with delay := grow b.delay, attempts := b.attempts + 1 })

end Backoff

end DesignBridge
