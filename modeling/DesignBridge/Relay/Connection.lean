import DesignBridge.Json.Reader

/-! # Connections

The relay's side of one executor, which sends text frames. A reply is a JSON object; a heartbeat is
an object that carries operations and no outcome. At most one waiter is armed at a time, for the
next reply. A frame that comes in answers the armed waiter, unless it is a heartbeat or the
connection is closed; with no waiter armed it is dropped.
-/

namespace DesignBridge

namespace Frame

/-- The members of the object that a frame holds, if it holds one. -/
def reply? (frame : String) : Option Json.Members :=
  match Json.read? frame with
  | .ok (.object members) => some members
  | _ => none

/-- Whether an object carries operations and no outcome. -/
def isTaskEnvelope (members : Json.Members) : Bool :=
  (members.lookup ↑"ops").isSome && (members.lookup ↑"ok").isNone

def isHeartbeat (frame : String) : Bool :=
  (reply? frame).any isTaskEnvelope

end Frame

/-- A wait for one reply. -/
inductive Waiter where
  | armed
  | answered (frame : String)
  | cancelled
  deriving DecidableEq, Repr

/-- A connection. Waiters are numbered in the order in which they were armed; `slot` is the one
that the next reply goes to. -/
structure Connection where
  peer : String
  closed : Bool
  heartbeatSeen : Bool
  waiters : List Waiter
  slot : Option Nat
  deriving DecidableEq, Repr

namespace Connection

def fresh (peer : String) : Connection :=
  ⟨peer, false, false, [], none⟩

/-- The name of a peer whose address is unknown. -/
def unknownPeer : String := "unknown"

/-- The name of a peer by its host and port. -/
def peerOf (host port : String) : String := host ++ ":" ++ port

def isArmed (c : Connection) (n : Nat) : Bool :=
  c.waiters[n]? == some .armed

def isAwaiting (c : Connection) : Bool :=
  c.slot.any c.isArmed

/-- Arms a new waiter for the next reply; `none` if a reply is awaited already. -/
def expect (c : Connection) : Option (Nat × Connection) :=
  if c.isAwaiting then none
  else some (c.waiters.length,
    { c with waiters := c.waiters ++ [.armed], slot := some c.waiters.length })

/-- What is said when a reply is awaited already. -/
def busyMessage : String := "A reply is already awaited on this connection"

def setWaiter (c : Connection) (n : Nat) (waiter : Waiter) : Connection :=
  { c with waiters := c.waiters.set n waiter }

/-- Cancels a waiter; also tells whether it was armed. -/
def cancel (c : Connection) (n : Nat) : Connection × Bool :=
  if c.isArmed n then (c.setWaiter n .cancelled, true) else (c, false)

/-- Ends a wait: the waiter gets no reply any more. -/
def clear (c : Connection) (n : Nat) : Connection :=
  ({ c with slot := if c.slot = some n then none else c.slot }.cancel n).1

/-- Takes a frame in. Gives the number of the waiter that it answers, if any. -/
def deliver (c : Connection) (frame : String) : Connection × Option Nat :=
  if c.closed then (c, none)
  else if Frame.isHeartbeat frame then ({ c with heartbeatSeen := true }, none)
  else match c.slot.filter c.isArmed with
    | some n => ({ c.setWaiter n (.answered frame) with slot := none }, some n)
    | none => (c, none)

/-- Closes the connection: nothing is sent or taken in any more. -/
def close (c : Connection) : Connection :=
  { c with closed := true }

/-- What is said when something is sent on a closed connection. -/
def closedMessage (c : Connection) : String :=
  "Executor connection " ++ c.peer ++ " is closed"

/-- A connection in messages. -/
def describe (c : Connection) : String :=
  "ExecutorConnection(peer=" ++ Text.quoted c.peer ++ ")"

end Connection

end DesignBridge
