import DesignBridge.Session.Answer
import DesignBridge.Session.Backoff
import DesignBridge.Settings.Executor

/-! # Running an executor

An executor connects to the bridge, sends a heartbeat, and then answers every task frame while it
goes on sending heartbeats at a fixed interval. When the connection ends it backs off and tries
again. What the other side does is given as one attempt after the other; when these are used up
every further attempt is refused.
-/

namespace DesignBridge.Session

/-- Why an attempt to connect fails. -/
inductive RefusalKind where
  /-- The network or the other side refuses. -/
  | network
  /-- The handshake fails. -/
  | handshake
  /-- The user stops the executor. -/
  | interrupt
  /-- The executor itself is at fault. -/
  | internal
  deriving DecidableEq, Repr

/-- A failure to connect: its kind, and how it is reported. -/
structure Refusal where
  kind : RefusalKind
  name : String
  message : String
  deriving DecidableEq, Repr

/-- Whether another attempt is made after a failure. -/
def Refusal.isRetried (refusal : Refusal) : Bool :=
  refusal.kind = .network || refusal.kind = .handshake

/-- What a connection brings: frames, each some time after it is asked for, and an end some time
after the last. With a limit, sending fails after that many frames were sent. -/
structure Script where
  frames : List (Number × String)
  endAfter : Number
  sendLimit : Option Nat

/-- What comes of an attempt to connect. -/
inductive Attempt where
  | refused (refusal : Refusal)
  | opened (script : Script)

/-- What can be seen of an executor's run. -/
inductive Event where
  | connecting (url : String)
  | sent (payload : String)
  | sendFailed
  | disconnected
  deriving DecidableEq, Repr

/-- Why a run ends before its attempts are used up. -/
inductive Crash where
  | refused (refusal : Refusal)
  /-- A reply could not be put together. -/
  | reply (issues : List Issue)
  /-- A pause was to be longer than any clock can count. -/
  | overlong
  deriving DecidableEq

/-- The state of a run. Times are in seconds since its start. -/
structure State where
  settings : ExecutorSettings
  interpreter : Interpreter
  document : Document
  backoff : Backoff
  now : Float
  events : List (Float × Event)

namespace State

/-- The state at the start of a run. -/
def fresh (settings : ExecutorSettings) (interpreter : Interpreter) : State where
  settings := settings
  interpreter := interpreter
  document := .fresh
  backoff := .fresh settings.reconnectDelay settings.maxReconnects
  now := 0
  events := []

/-- Adds an event at the present time. -/
def emit (s : State) (event : Event) : State :=
  { s with events := s.events ++ [(s.now, event)] }

end State

/-- The time a number of seconds after another; a number that is not positive adds nothing. -/
def after (now : Float) (seconds : Number) : Float :=
  let x := seconds.toFloat
  if 0 < x then now + x else now

/-- The frame that is sent as a heartbeat. -/
def heartbeat : String :=
  Json.write (.object
    [("ops", .list [.object [("op", .text OperationKind.testConnection.name)]])])

/-- The state of a connection: how many frames may still be sent, and when the next heartbeat is
due, until one fails. -/
structure Wire where
  sendsLeft : Option Nat
  nextBeat : Option Float

/-- Sends a frame; also tells whether that succeeds. -/
def send (s : State) (wire : Wire) (payload : String) : State × Wire × Bool :=
  match wire.sendsLeft with
  | some 0 => (s.emit .sendFailed, wire, false)
  | some (n + 1) => (s.emit (.sent payload), { wire with sendsLeft := some n }, true)
  | none => (s.emit (.sent payload), wire, true)

/-- Sends the heartbeats that are due before a time, at most a number of them. The first that fails
is the last. -/
def beatUntil (until_ : Float) : Nat → State → Wire → State × Wire
  | 0, s, wire => (s, wire)
  | fuel + 1, s, wire =>
    match wire.nextBeat.filter (· < until_) with
    | none => (s, wire)
    -- The beat is sent at its own time, not at the moment up to which time passes.
    | some t =>
      let (s, wire, ok) := send { s with now := t } wire heartbeat
      let next := if ok then some (t + s.settings.heartbeatInterval.toFloat) else none
      beatUntil until_ fuel s { wire with nextBeat := next }

/-- Lets time pass up to a moment, with the heartbeats on the way. -/
def passTo (t : Float) (s : State) (wire : Wire) : State × Wire :=
  let interval := s.settings.heartbeatInterval.toFloat
  let beats := if 0 < interval then ((t - s.now) / interval).toUInt64.toNat + 2 else 0
  let (s, wire) := beatUntil t beats s wire
  ({ s with now := t }, wire)

/-- Answers the frames of a connection until it ends. -/
def serve (endAfter : Number) : List (Number × String) → State → Wire → State × Option Crash
  | [], s, wire => ((passTo (after s.now endAfter) s wire).1.emit .disconnected, none)
  | (delay, frame) :: rest, s, wire =>
    let (s, wire) := passTo (after s.now delay) s wire
    let (document, reply) := answer s.interpreter s.document frame
    let s := { s with document }
    match reply with
    | .rejected issues => (s.emit .disconnected, some (.reply issues))
    | .accepted reply =>
      match send s wire reply.write with
      | (s, wire, true) => serve endAfter rest s wire
      -- The frames behind this one are lost with the connection.
      | (s, _, false) => (s.emit .disconnected, none)

/-- Makes one attempt to connect, and serves the connection if there is one. That no heartbeat can
be waited for comes out when the connection has ended, and outweighs everything else. -/
def attempt (s : State) (a : Attempt) : State × Option Crash :=
  let s := s.emit (.connecting s.settings.url)
  match a with
  | .refused refusal => (s, if refusal.isRetried then none else some (.refused refusal))
  | .opened script =>
    -- A connection that opens makes up for all failures before it.
    let s := { s with backoff := s.backoff.reset }
    let interval := s.settings.heartbeatInterval
    match send s ⟨script.sendLimit, some (after s.now interval)⟩ heartbeat with
    | (s, wire, true) =>
      let (s, crash) := serve script.endAfter script.frames s wire
      (s, if interval.exceedsDoubles then some .overlong else crash)
    | (s, _, false) => (s.emit .disconnected, none)

/-- Waits before the next attempt. None is made when none is left, or when the wait is too long. -/
def backOff (s : State) : Except (State × Option Crash) State :=
  match s.backoff.next? with
  | none => .error (s, none)
  | some (delay, backoff) =>
    if delay.exceedsDoubles then
      .error ({ s with backoff := { backoff with delay } }, some .overlong)
    else .ok { s with now := after s.now delay, backoff }

/-- What every attempt meets when the given ones are used up. -/
def noListener : Attempt :=
  .refused ⟨.network, "OSError", "no more connections"⟩

/-- Makes attempts that are all refused, at most a number of them. -/
def runRefused : Nat → State → State × Option Crash
  | 0, s => (s, none)
  | fuel + 1, s =>
    match attempt s noListener with
    | (s, some crash) => (s, some crash)
    | (s, none) => match backOff s with
      | .error ending => ending
      | .ok s => runRefused fuel s

/-- How many attempts in a row a limit allows for. -/
def attemptsWithin (limit : Number) : Nat :=
  (limit.toRat?.map fun q => q.ceil.toNat + 1).getD 1

/-- Runs an executor: until its attempts are used up, or something goes wrong that no further
attempt can mend. -/
def run : List Attempt → State → State × Option Crash
  | [], s => runRefused (attemptsWithin s.backoff.limit) s
  | a :: rest, s =>
    match attempt s a with
    | (s, some crash) => (s, some crash)
    | (s, none) => match backOff s with
      | .error ending => ending
      | .ok s => run rest s

/-- The status that an executor's process ends with after a crash: success if the user stopped
it. -/
def Crash.exitStatus : Crash → Nat
  | refused refusal => if refusal.kind = .interrupt then 0 else 1
  | reply _ | overlong => 1

end DesignBridge.Session
