import DesignBridge.Relay.Connection
import DesignBridge.Relay.Gate
import DesignBridge.Relay.Patience
import DesignBridge.Relay.Registry
import DesignBridge.Relay.Submission

/-! # The world of the relay

Connections, the registry and all submissions, as one value. Submissions that can go on stand in a
list; nothing happens between two of their steps but what an action says. So every interleaving of
frames, steps, timers and failures is a list of actions.
-/

namespace DesignBridge

/-- Whether what is sent on a connection arrives. -/
inductive Link where
  | up
  /-- Sending takes until the state of the link changes. -/
  | stalled
  | broken (reason : String)
  deriving DecidableEq, Repr

/-- A connection with its gate and its link. -/
structure Port where
  connection : Connection
  gate : Gate
  link : Link
  deriving DecidableEq, Repr

/-- What can be seen of the relay's work, in order. -/
inductive RelayEvent where
  | sent (connection : Nat) (payload : String)
  /-- The link refused what was sent. -/
  | sendFailed (connection : Nat)
  | closed (connection : Nat) (code : Int) (reason : String)
  | finished (submission : Nat) (outcome : Outcome)

/-- The world of the relay. -/
structure World where
  patience : Patience
  now : Time
  ports : List Port
  registry : Registry Nat
  submissions : List Submission
  /-- Who can go on, in the order in which it will. -/
  ready : List Nat
  /-- How many task ids were made up. -/
  minted : Nat
  events : List RelayEvent

namespace World

/-- A world in which nothing has happened. -/
def fresh (patience : Patience) : World :=
  ⟨patience, 0, [], .empty, [], [], 0, []⟩

/-- How deep registrations may nest; the relay's own listeners register nothing. -/
def registryDepth : Nat := 1

/-- The connection that is current. -/
def current? (w : World) : Option Nat := w.registry.current

def modifyPort (w : World) (c : Nat) (f : Port → Port) : World :=
  { w with ports := w.ports.modify c f }

def modifyConnection (w : World) (c : Nat) (f : Connection → Connection) : World :=
  w.modifyPort c fun port => { port with connection := f port.connection }

def modifySubmission (w : World) (i : Nat) (f : Submission → Submission) : World :=
  { w with submissions := w.submissions.modify i f }

/-- Sets how far a submission has come. -/
def setPhase (w : World) (i : Nat) (phase : Phase) : World :=
  w.modifySubmission i fun s => { s with phase }

def emit (w : World) (event : RelayEvent) : World :=
  { w with events := w.events ++ [event] }

/-- Lets a submission go on, after all others that can. -/
def wake (w : World) (i : Nat) : World :=
  if i ∈ w.ready then w else { w with ready := w.ready ++ [i] }

/-- Lets a submission go on, if there is one. -/
def wake? (w : World) : Option Nat → World
  | some i => w.wake i
  | none => w

/-- Makes a connection current; gives the one that was before. -/
def register (w : World) (c : Nat) : World :=
  { w with registry := (w.registry.register registryDepth (some c)).1 }

/-- Clears the registry if a connection is current. -/
def unregister (w : World) (c : Nat) : World × Bool :=
  let (heard, cleared) := w.registry.unregister registryDepth (some c)
  ({ w with registry := heard.1 }, cleared)

/-- Whether a deadline has passed. -/
def isPast (w : World) (deadline : Option Time) : Bool :=
  deadline.any (· ≤ w.now)

/-! ## Steps of a submission -/

/-- Ends a submission. -/
def finish (w : World) (i : Nat) (outcome : Outcome) : World :=
  (w.setPhase i (.finished outcome)).emit (.finished i outcome)

/-- Ends a submission that is through the gate of its connection; the next in line is called. -/
def leave (w : World) (i c : Nat) (outcome : Outcome) : World :=
  match w.ports[c]? with
  | none => w.finish i outcome
  | some port =>
    let (gate, next) := port.gate.leave
    ((w.modifyPort c ({ · with gate })).finish i outcome).wake? next

/-- Ends the wait for a reply, and the submission with it. -/
def endExchange (w : World) (i c waiter : Nat) (outcome : Outcome) : World :=
  (w.modifyConnection c (·.clear waiter)).leave i c outcome

/-- Waits for a reply, unless the deadline has passed. A reply that came already lets the
submission go on at once. -/
def await (w : World) (i c : Nat) (deadline : Option Time) (waiter : Nat) : World :=
  if w.isPast deadline then w.endExchange i c waiter .timedOut
  else
    -- The frame can have come while the task was still being sent; nothing else lets it go on.
    let w := w.setPhase i (.awaiting deadline waiter)
    match w.ports[c]? with
    | some port => if port.connection.isArmed waiter then w else w.wake i
    | none => w

/-- Gives up a connection on which sending failed. -/
def loseConnection (w : World) (i c waiter : Nat) (reason : String) : World :=
  (w.unregister c).1.endExchange i c waiter (.noPeer (.lost reason))

/-- Sends the task of a submission on the link of its connection. -/
def send (w : World) (i c : Nat) (deadline : Option Time) (waiter : Nat) (port : Port)
    (payload : String) : World :=
  if port.connection.closed then
    w.loseConnection i c waiter port.connection.closedMessage
  else match port.link with
    | .up => (w.emit (.sent c payload)).await i c deadline waiter
    | .stalled => w.setPhase i (.sending deadline waiter)
    | .broken reason => (w.emit (.sendFailed c)).loseConnection i c waiter reason

/-- Begins the exchange of a submission that is through the gate: arms a waiter and sends. -/
def exchange (w : World) (i c : Nat) (s : Submission) : World :=
  match w.ports[c]? with
  | none => w.leave i c (.noPeer .notConnected)
  | some port =>
    -- The deadline comes before the waiter, so this failure leaves none armed.
    if w.patience = .overlong then w.leave i c .overlong
    else match port.connection.expect with
      | none => w.leave i c .busy
      | some (waiter, connection) =>
        (w.modifyConnection c fun _ => connection).send i c (w.patience.deadline? w.now) waiter
          { port with connection } s.payload

/-- Goes on behind the gate: the connection must still be current. -/
def enter (w : World) (i c : Nat) (s : Submission) : World :=
  -- Another connection may have taken over while this one stood in line.
  if w.current? ≠ some c then w.leave i c (.noPeer .replaced)
  else match (s.wire.lookup ↑"ops").bind unmeasuredType? with
    | some type => w.leave i c (.unmeasured type)
    | none => w.exchange i c s

/-- Starts a submission: settles connection and id, and goes to the gate. -/
def start (mint : Nat → String) (w : World) (i : Nat) (s : Submission) : World :=
  match w.current? with
  | none => w.finish i (.noPeer .notConnected)
  | some c =>
    let (w, taskId, wire) := match taskId? s.body with
      | some id => (w, id, s.body)
      | none =>
        let id := Json.text (mint (w.minted + 1))
        ({ w with minted := w.minted + 1 }, id, s.body.put "taskId" id)
    -- Settled here once and for all: a later connection does not change it.
    let s := { s with connection := c, taskId, wire, phase := .queued }
    let w := w.modifySubmission i fun _ => s
    match w.ports[c]? with
    | none => w.finish i (.noPeer .notConnected)
    | some port =>
      if port.gate.isOpen then
        (w.modifyPort c fun port => { port with gate := port.gate.take }).enter i c s
      else w.modifyPort c fun port => { port with gate := port.gate.join i }

/-- Goes on from the line at the gate. -/
def takeTurn (w : World) (i : Nat) (s : Submission) : World :=
  let c := s.connection
  match w.ports[c]? with
  | none => w
  | some port =>
    if s.cancelled then
      let (gate, next) := port.gate.leaveLine i
      ((w.modifyPort c ({ · with gate })).finish i .cancelled).wake? next
    else if port.gate.turn? i = some .called then
      (w.modifyPort c fun port => { port with gate := (port.gate.drop i).take }).enter i c s
    else w

/-- Goes on from sending, when the link is no longer stalled. -/
def finishSending (w : World) (i : Nat) (s : Submission) (deadline : Option Time)
    (waiter : Nat) : World :=
  let c := s.connection
  match w.ports[c]? with
  | none => w
  | some port =>
    if s.cancelled then w.endExchange i c waiter .cancelled
    else match port.link with
      | .up => (w.emit (.sent c s.payload)).await i c deadline waiter
      | .stalled => w
      | .broken reason => (w.emit (.sendFailed c)).loseConnection i c waiter reason

/-- Takes up the frame that answered the wait. A stale reply is dropped, and a new wait begins; if
the submission was cancelled meanwhile, the reply has undone that. -/
def takeReply (w : World) (i : Nat) (s : Submission) (deadline : Option Time) (waiter : Nat)
    (frame : String) : World :=
  let c := s.connection
  match classify s.taskId frame with
  | .invalid => w.endExchange i c waiter .invalid
  | .fitting reply => w.endExchange i c waiter (.replied reply)
  | .stale => match w.ports[c]? with
    | none => w
    | some port => match port.connection.expect with
      | none => w.endExchange i c waiter .busy
      | some (next, connection) =>
        ((w.modifySubmission i ({ · with cancelled := false })).modifyConnection c
          fun _ => connection).await i c deadline next

/-- Goes on from the wait: with the reply if there is one, otherwise because the submission was
cancelled or its deadline has passed. -/
def endWait (w : World) (i : Nat) (s : Submission) (deadline : Option Time) (waiter : Nat) :
    World :=
  let c := s.connection
  match w.ports[c]? with
  | none => w
  | some port => match port.connection.waiters[waiter]? with
    -- A reply that is there counts, even if the deadline has passed since.
    | some (.answered frame) => w.takeReply i s deadline waiter frame
    | _ =>
      if s.cancelled then w.endExchange i c waiter .cancelled
      else if w.isPast deadline then w.endExchange i c waiter .timedOut
      else w

/-- Lets a submission take its next step. -/
def resume (mint : Nat → String) (w : World) (i : Nat) : World :=
  let w := { w with ready := w.ready.erase i }
  match w.submissions[i]? with
  | none => w
  | some s => match s.phase with
    -- Before its first step a submission holds nothing that would have to be given back.
    | .fresh => if s.cancelled then w.finish i .cancelled else w.start mint i s
    | .queued => w.takeTurn i s
    | .sending deadline waiter => w.finishSending i s deadline waiter
    | .awaiting deadline waiter => w.endWait i s deadline waiter
    | .finished _ => w

/-! ## What happens from outside -/

/-- Opens a connection and makes it current; gives its number. -/
def connect (w : World) (peer : String) : World × Nat :=
  let c := w.ports.length
  let opened : World := { w with ports := w.ports ++ [⟨.fresh peer, .fresh, .up⟩] }
  (opened.register c, c)

/-- Adds a submission, which can take its first step; gives its number. -/
def submit (w : World) (body : Json.Members) : World × Nat :=
  let i := w.submissions.length
  let joined : World := { w with submissions := w.submissions ++ [.fresh body] }
  (joined.wake i, i)

/-- Whether a submission waits for the reply that a waiter stands for. -/
def awaits (c waiter : Nat) (s : Submission) : Bool :=
  match s.phase with
  | .awaiting _ n => s.connection == c && n == waiter
  | _ => false

/-- Takes a frame in on a connection; tells whether it answered a wait. -/
def deliver (w : World) (c : Nat) (frame : String) : World × Bool :=
  match w.ports[c]? with
  | none => (w, false)
  | some port =>
    let (connection, answered) := port.connection.deliver frame
    let w := w.modifyConnection c fun _ => connection
    match answered with
    | none => (w, false)
    | some waiter => (w.wake? (w.submissions.findIdx? (awaits c waiter)), true)

def sendsOn (c : Nat) (s : Submission) : Bool :=
  match s.phase with
  | .sending .. => s.connection == c
  | _ => false

/-- Changes the link of a connection. -/
def setLink (w : World) (c : Nat) (link : Link) : World :=
  let w := w.modifyPort c ({ · with link })
  if link = .stalled then w else w.wake? (w.submissions.findIdx? (sendsOn c))

def close (w : World) (c : Nat) (code : Int) (reason : String) : World :=
  (w.modifyConnection c (·.close)).emit (.closed c code reason)

/-- Cancels a submission. One that has ended stays as it is. -/
def cancel (w : World) (i : Nat) : World :=
  match w.submissions[i]? with
  | none => w
  | some s =>
    if s.isFinished then w
    else
      ((w.modifySubmission i ({ · with cancelled := true })).modifyPort s.connection fun port =>
        { port with gate := port.gate.withdraw i }).wake i

/-- The deadline of a submission that waits for its reply. -/
def deadline? (s : Submission) : Option Time :=
  match s.phase with
  | .awaiting deadline _ => deadline
  | _ => none

/-- The submissions whose deadline is not after a time. -/
def due (w : World) (t : Time) : List Nat :=
  (List.range w.submissions.length).filter fun i =>
    (w.submissions[i]?.bind deadline?).any (· ≤ t)

/-- Moves the clock. Whoever's deadline has passed can go on. -/
def setNow (w : World) (t : Time) : World :=
  (w.due t).foldl wake { w with now := t }

end World

end DesignBridge
