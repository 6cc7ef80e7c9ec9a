import DesignBridge.Relay.Action
import DesignBridge.Proofs.Relay.Port

/-! # What one step of a submission does

A step changes one submission, the port of its connection and nothing else, apart from what it adds
to the events and who can go on. `Move` lists all steps with the conditions under which they are
taken; `resume_moved` says that there are no others. What holds of every run is derived from that
list, without another look at the steps themselves.
-/

namespace DesignBridge

/-- The waiter of an exchange, as long as that lasts. -/
def Phase.waiter? : Phase → Option Nat
  | sending _ waiter => some waiter
  | awaiting _ waiter => some waiter
  | _ => none

/-- A submission that has found its connection, with the id and the wire form of its task. -/
def Submission.settle (mint : Nat → String) (minted c : Nat) (s : Submission) : Submission :=
  match taskId? s.body with
  | some id => { s with connection := c, taskId := id, wire := s.body, phase := .queued }
  | none =>
    let id := Json.text (mint (minted + 1))
    { s with connection := c, taskId := id, wire := s.body.put "taskId" id, phase := .queued }

/-- A port that someone leaves, with the connection as it is then. -/
def Port.left (port : Port) (connection : Connection) : Port :=
  { port with connection, gate := port.gate.leave.1 }

/-! ## All steps -/

/-- What becomes of a submission that is through the gate: how far it comes, the port and the
events. -/
inductive Entry (w : World) (i c : Nat) (s : Submission) (port : Port) :
    Phase → Port → List RelayEvent → Prop
  | replaced (hcurrent : w.current? ≠ some c) :
      Entry w i c s port (.finished (.noPeer .replaced)) (port.left port.connection)
        [.finished i (.noPeer .replaced)]
  | unmeasured (hcurrent : w.current? = some c) {type : String}
      (htype : (s.wire.lookup ↑"ops").bind unmeasuredType? = some type) :
      Entry w i c s port (.finished (.unmeasured type)) (port.left port.connection)
        [.finished i (.unmeasured type)]
  | overlong (hcurrent : w.current? = some c) (hpatience : w.patience = .overlong) :
      Entry w i c s port (.finished .overlong) (port.left port.connection) [.finished i .overlong]
  | busy (hcurrent : w.current? = some c) (hexpect : port.connection.expect = none) :
      Entry w i c s port (.finished .busy) (port.left port.connection) [.finished i .busy]
  | closed (hcurrent : w.current? = some c) {waiter : Nat} {connection : Connection}
      (hexpect : port.connection.expect = some (waiter, connection))
      (hclosed : connection.closed = true) :
      Entry w i c s port (.finished (.noPeer (.lost connection.closedMessage)))
        (port.left (connection.clear waiter))
        [.finished i (.noPeer (.lost connection.closedMessage))]
  | broken (hcurrent : w.current? = some c) {waiter : Nat} {connection : Connection}
      (hexpect : port.connection.expect = some (waiter, connection))
      (hopen : connection.closed = false) {reason : String} (hlink : port.link = .broken reason) :
      Entry w i c s port (.finished (.noPeer (.lost reason))) (port.left (connection.clear waiter))
        [.sendFailed c, .finished i (.noPeer (.lost reason))]
  | stalled (hcurrent : w.current? = some c) {waiter : Nat} {connection : Connection}
      (hexpect : port.connection.expect = some (waiter, connection))
      (hopen : connection.closed = false) (hlink : port.link = .stalled) :
      Entry w i c s port (.sending (w.patience.deadline? w.now) waiter) { port with connection } []
  | late (hcurrent : w.current? = some c) {waiter : Nat} {connection : Connection}
      (hexpect : port.connection.expect = some (waiter, connection))
      (hopen : connection.closed = false) (hlink : port.link = .up)
      (hpast : w.isPast (w.patience.deadline? w.now) = true) :
      Entry w i c s port (.finished .timedOut) (port.left (connection.clear waiter))
        [.sent c s.payload, .finished i .timedOut]
  | sent (hcurrent : w.current? = some c) {waiter : Nat} {connection : Connection}
      (hexpect : port.connection.expect = some (waiter, connection))
      (hopen : connection.closed = false) (hlink : port.link = .up)
      (hpast : w.isPast (w.patience.deadline? w.now) = false) :
      Entry w i c s port (.awaiting (w.patience.deadline? w.now) waiter) { port with connection }
        [.sent c s.payload]

/-- Whoever comes through the gate waits on a waiter that has no reply yet. -/
theorem Entry.unanswered {w : World} {i c : Nat} {s : Submission} {port after : Port}
    {phase : Phase} {news : List RelayEvent} (h : Entry w i c s port phase after news)
    {waiter : Nat} (hphase : phase.waiter? = some waiter) (frame : String) :
    after.connection.waiters[waiter]? ≠ some (.answered frame) := by
  cases h with
  | stalled _ hexpect | sent _ hexpect =>
      obtain rfl := Option.some.inj hphase
      simp [Connection.expect_armed hexpect]
  | _ => cases hphase

/-- How an exchange ends on the waiter that it has: the outcome, and what was seen just before. -/
inductive Ending (w : World) (s : Submission) (port : Port) (waiter : Nat) :
    Outcome → List RelayEvent → Prop
  | interrupted {deadline : Option Time} (hphase : s.phase = .sending deadline waiter)
      (hcancelled : s.cancelled = true) : Ending w s port waiter .cancelled []
  | late {deadline : Option Time} (hphase : s.phase = .sending deadline waiter)
      (hcancelled : s.cancelled = false) (hlink : port.link = .up)
      (hpast : w.isPast deadline = true) :
      Ending w s port waiter .timedOut [.sent s.connection s.payload]
  | broken {deadline : Option Time} (hphase : s.phase = .sending deadline waiter)
      (hcancelled : s.cancelled = false) {reason : String} (hlink : port.link = .broken reason) :
      Ending w s port waiter (.noPeer (.lost reason)) [.sendFailed s.connection]
  | replied {deadline : Option Time} (hphase : s.phase = .awaiting deadline waiter) {frame : String}
      (hframe : port.connection.waiters[waiter]? = some (.answered frame)) {reply : Json.Members}
      (hreply : classify s.taskId frame = .fitting reply) :
      Ending w s port waiter (.replied reply) []
  | invalid {deadline : Option Time} (hphase : s.phase = .awaiting deadline waiter) {frame : String}
      (hframe : port.connection.waiters[waiter]? = some (.answered frame))
      (hreply : classify s.taskId frame = .invalid) : Ending w s port waiter .invalid []
  | busy {deadline : Option Time} (hphase : s.phase = .awaiting deadline waiter) {frame : String}
      (hframe : port.connection.waiters[waiter]? = some (.answered frame))
      (hreply : classify s.taskId frame = .stale) (hexpect : port.connection.expect = none) :
      Ending w s port waiter .busy []
  | cancelled {deadline : Option Time} (hphase : s.phase = .awaiting deadline waiter)
      (hwait : ∀ frame, port.connection.waiters[waiter]? ≠ some (.answered frame))
      (hcancelled : s.cancelled = true) : Ending w s port waiter .cancelled []
  | timedOut {deadline : Option Time} (hphase : s.phase = .awaiting deadline waiter)
      (hwait : ∀ frame, port.connection.waiters[waiter]? ≠ some (.answered frame))
      (hcancelled : s.cancelled = false) (hpast : w.isPast deadline = true) :
      Ending w s port waiter .timedOut []

theorem Ending.waiter? {w : World} {s : Submission} {port : Port} {waiter : Nat}
    {outcome : Outcome} {news : List RelayEvent} (h : Ending w s port waiter outcome news) :
    s.phase.waiter? = some waiter := by
  cases h <;> simp [*, Phase.waiter?]

theorem Submission.settle_phase (mint : Nat → String) (minted c : Nat) (s : Submission) :
    (s.settle mint minted c).phase = .queued := by
  unfold settle
  split <;> rfl

theorem Submission.settle_connection (mint : Nat → String) (minted c : Nat) (s : Submission) :
    (s.settle mint minted c).connection = c := by
  unfold settle
  split <;> rfl

theorem Submission.settle_body (mint : Nat → String) (minted c : Nat) (s : Submission) :
    (s.settle mint minted c).body = s.body := by
  unfold settle
  split <;> rfl

theorem Submission.settle_cancelled (mint : Nat → String) (minted c : Nat) (s : Submission) :
    (s.settle mint minted c).cancelled = s.cancelled := by
  unfold settle
  split <;> rfl

/-- When a step changes nothing. -/
def Submission.Rests (w : World) (i : Nat) (s : Submission) (port : Port) : Prop :=
  match s.phase with
  | .fresh => False
  | .queued => s.cancelled = false ∧ port.gate.turn? i ≠ some .called
  | .sending _ _ => s.cancelled = false ∧ port.link = .stalled
  | .awaiting deadline waiter =>
    (∀ frame, port.connection.waiters[waiter]? ≠ some (.answered frame)) ∧ s.cancelled = false ∧
      w.isPast deadline = false
  | .finished _ => True

/-- What a step makes of a submission and of the port of its connection `c`, and the events that it
adds. -/
inductive Move (mint : Nat → String) (w : World) (i c : Nat) (s : Submission) :
    Option Port → Submission → Option Port → List RelayEvent → Prop
  | rested {port : Option Port} (hc : s.connection = c)
      (hrests : ∀ p, port = some p → s.Rests w i p) (hphase : s.phase ≠ .fresh) :
      Move mint w i c s port s port []
  | abandoned {port : Option Port} (hphase : s.phase = .fresh) (hcancelled : s.cancelled = true) :
      Move mint w i c s port { s with phase := .finished .cancelled } port
        [.finished i .cancelled]
  | alone {port : Option Port} (hphase : s.phase = .fresh) (hcancelled : s.cancelled = false)
      (hcurrent : w.current? = none) :
      Move mint w i c s port { s with phase := .finished (.noPeer .notConnected) } port
        [.finished i (.noPeer .notConnected)]
  | unopened (hphase : s.phase = .fresh) (hcancelled : s.cancelled = false)
      (hcurrent : w.current? = some c) :
      Move mint w i c s none
        { s.settle mint w.minted c with phase := .finished (.noPeer .notConnected) } none
        [.finished i (.noPeer .notConnected)]
  | joined {port : Port} (hphase : s.phase = .fresh) (hcancelled : s.cancelled = false)
      (hcurrent : w.current? = some c) (hopen : port.gate.isOpen = false) :
      Move mint w i c s (some port) (s.settle mint w.minted c)
        (some { port with gate := port.gate.join i }) []
  | entered {port after : Port} {phase : Phase} {news : List RelayEvent}
      (hphase : s.phase = .fresh) (hcancelled : s.cancelled = false)
      (hcurrent : w.current? = some c) (hopen : port.gate.isOpen = true)
      (hentry : Entry w i c (s.settle mint w.minted c) { port with gate := port.gate.take } phase
        after news) :
      Move mint w i c s (some port) { s.settle mint w.minted c with phase } (some after) news
  | withdrew {port : Port} (hphase : s.phase = .queued) (hc : s.connection = c)
      (hcancelled : s.cancelled = true) :
      Move mint w i c s (some port) { s with phase := .finished .cancelled }
        (some { port with gate := (port.gate.leaveLine i).1 }) [.finished i .cancelled]
  | called {port after : Port} {phase : Phase} {news : List RelayEvent}
      (hphase : s.phase = .queued) (hc : s.connection = c) (hcancelled : s.cancelled = false)
      (hturn : port.gate.turn? i = some .called)
      (hentry : Entry w i c s { port with gate := (port.gate.drop i).take } phase after news) :
      Move mint w i c s (some port) { s with phase } (some after) news
  | sent {port : Port} {deadline : Option Time} {waiter : Nat}
      (hphase : s.phase = .sending deadline waiter) (hc : s.connection = c)
      (hcancelled : s.cancelled = false) (hlink : port.link = .up)
      (hpast : w.isPast deadline = false) :
      Move mint w i c s (some port) { s with phase := .awaiting deadline waiter } (some port)
        [.sent c s.payload]
  | rearmed {port : Port} {deadline : Option Time} {waiter next : Nat} {frame : String}
      {connection : Connection} (hphase : s.phase = .awaiting deadline waiter)
      (hc : s.connection = c)
      (hframe : port.connection.waiters[waiter]? = some (.answered frame))
      (hreply : classify s.taskId frame = .stale)
      (hexpect : port.connection.expect = some (next, connection))
      (hpast : w.isPast deadline = false) :
      Move mint w i c s (some port)
        { s with cancelled := false, phase := .awaiting deadline next }
        (some { port with connection }) []
  | overdue {port : Port} {deadline : Option Time} {waiter next : Nat} {frame : String}
      {connection : Connection} (hphase : s.phase = .awaiting deadline waiter)
      (hc : s.connection = c)
      (hframe : port.connection.waiters[waiter]? = some (.answered frame))
      (hreply : classify s.taskId frame = .stale)
      (hexpect : port.connection.expect = some (next, connection))
      (hpast : w.isPast deadline = true) :
      Move mint w i c s (some port) { s with cancelled := false, phase := .finished .timedOut }
        (some (port.left (connection.clear next))) [.finished i .timedOut]
  | ended {port : Port} {waiter : Nat} {outcome : Outcome} {news : List RelayEvent}
      (hc : s.connection = c) (hending : Ending w s port waiter outcome news) :
      Move mint w i c s (some port) { s with phase := .finished outcome }
        (some (port.left (port.connection.clear waiter))) (news ++ [.finished i outcome])

end DesignBridge
