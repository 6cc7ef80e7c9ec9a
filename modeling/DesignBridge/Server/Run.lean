import DesignBridge.Server.Action

/-! # Running the bridge

After each thing that reaches the bridge from outside, everything that can go on goes on. An
executor that is closed because another took over hangs up as soon as it hears of that.
-/

namespace DesignBridge.Bridge

/-- The path at which executors connect. -/
def executorPath : String := "/executor/ws"

/-- The code with which a socket at another path is refused. -/
def noPathCode : Int := 1000

/-- Lets everything go on that can. -/
def settle (b : Bridge) : Bridge :=
  { b with world := b.world.settle b.setup.supply.taskId }.absorbAll

/-- Lets some time pass. -/
def advance (b : Bridge) (seconds : Number) : Bridge :=
  { b with
    world := b.world.advance b.setup.supply.taskId (seconds.toRat?.getD 0)
    clock := b.clock + seconds.toFloat }.absorbAll

/-! ## Sockets -/

/-- Opens a socket at a path; gives its number unless it is refused. -/
def openSocket (b : Bridge) (path peer : String) : Bridge × Option Nat :=
  if Endpoint.withoutBreak path ≠ executorPath then (b.emit (.refused noPathCode), none)
  else if !b.hasRegistry then (b.act (.connect peer), none)
  else
    let warned := b.world.current?.filter b.isReachable
    let history := BridgeAction.connect peer :: warned.toList.map .hangUp
    ((b.play history).settle, some b.world.ports.length)

/-- Takes in frames, one right after the other. -/
def takeFrames (b : Bridge) (c : Nat) (frames : List String) : Bridge :=
  (b.play (frames.map (.frame c))).settle

/-- The other side closes a socket. -/
def hangUp (b : Bridge) (c : Nat) : Bridge :=
  (b.act (.hangUp c)).settle

/-- From now on what is sent on a socket fails. -/
def breakSocket (b : Bridge) (c : Nat) : Bridge :=
  (b.act (.setLink c (.broken ""))).settle

/-! ## Requests -/

/-- Takes in a request, and goes on with what it asks for. -/
def receive (b : Bridge) (request : Request) (site : SiteAnswer) : Bridge × Option SiteRequest :=
  let (b, made) := b.takeRequest request site
  (b.settle, made)

/-! ## The rest -/

/-- A part of the bridge that can be taken away. -/
inductive Part where
  | registry
  | relay
  | client
  deriving DecidableEq, Repr

/-- Takes a part away. -/
def remove (b : Bridge) : Part → Bridge
  | .registry => { b with hasRegistry := false }
  | .relay => { b with hasRelay := false }
  | .client => { b with client := none }

/-- Sets or unsets a variable. -/
def assign (b : Bridge) (name : String) (value : Option String) : Bridge :=
  { b with env := Environment.assign b.env name value }

end DesignBridge.Bridge
