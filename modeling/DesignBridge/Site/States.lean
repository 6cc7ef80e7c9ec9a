import DesignBridge.Table

/-! # States of authorizations

Every authorization that is begun gets a state, a secret that comes back with its end. A state is
good for one use within its lifetime; at the very end of the lifetime it still is. States that have
outlived it are dropped whenever one is issued or used. Times are what a clock shows; all that is
asked of them is that they can be subtracted and compared.
-/

namespace DesignBridge

/-- The states that were issued and not used, each with the time of its issue. -/
structure AuthStates (Clock : Type) where
  lifetime : Clock
  held : Entries Clock String
  deriving DecidableEq

namespace AuthStates

variable {Clock : Type} [Sub Clock] [LT Clock] [DecidableLT Clock]

/-- No states, with a lifetime. -/
def fresh (lifetime : Clock) : AuthStates Clock := ⟨lifetime, []⟩

/-- How long a state is good for by default, in seconds. -/
def defaultLifetime : Nat := 600

/-- Drops the states that have outlived their lifetime. -/
def purge (states : AuthStates Clock) (now : Clock) : AuthStates Clock :=
  { states with held := states.held.filter fun (_, issued) => ¬issued < now - states.lifetime }

def issue (states : AuthStates Clock) (now : Clock) (state : String) : AuthStates Clock :=
  let states := states.purge now
  { states with held := states.held.put state now }

/-- Uses a state, and tells whether it was good. No state at all and an empty one never are. -/
def consume (states : AuthStates Clock) (now : Clock) (state : Option String) :
    AuthStates Clock × Bool :=
  let states := states.purge now
  match state with
  | none => (states, false)
  | some state =>
    if state = "" then (states, false)
    else ({ states with held := states.held.erase state }, (states.held.lookup state).isSome)

/-- The states that are held. -/
def names (states : AuthStates Clock) : List String :=
  states.held.keys

end AuthStates

end DesignBridge
