import DesignBridge.Json.Writer
import DesignBridge.Relay.Connection
import DesignBridge.Relay.Patience

/-! # Submissions

A submission brings one task to an executor and waits for the reply. Its body is the caller's
object; it is sent as given, apart from an id that is added when there is none.
-/

namespace DesignBridge

/-- Why a task reached no executor. -/
inductive NoPeer where
  | notConnected
  /-- Another executor took over before it was the task's turn. -/
  | replaced
  /-- Sending failed. -/
  | lost (reason : String)
  deriving DecidableEq, Repr

/-- The wording for a task that reached no executor. -/
def NoPeer.message : NoPeer → String
  | notConnected => "Extension not connected. Please open the extension in Webflow Designer."
  | replaced => "Executor connection was replaced before the task was sent"
  | lost reason => "Executor connection lost: " ++ reason

/-- How a submission ends. -/
inductive Outcome where
  /-- The executor's reply. -/
  | replied (reply : Json.Members)
  /-- A reply that is no object. -/
  | invalid
  /-- No reply came in time; the task may still be carried out. -/
  | timedOut
  | noPeer (reason : NoPeer)
  /-- The operations are of a type that has no length. -/
  | unmeasured (type : String)
  /-- A reply was to be waited for longer than any clock can count. -/
  | overlong
  /-- A reply was already awaited on the connection. -/
  | busy
  | cancelled

namespace Outcome

/-- The wire form of the reply, when there is one. -/
def reply? : Outcome → Option Json.Members
  | replied reply => some reply
  | invalid => some [("ok", .bool false), ("error", .text "invalid response")]
  | timedOut =>
    some [("ok", .bool true), ("note", .text "no response yet, may still be executing")]
  | _ => none

end Outcome

/-- The type of a value that counts as present but has no length. -/
def unmeasuredType? (value : Json) : Option String :=
  if value.isTruthy && value.asNumber?.isSome then some value.typeName else none

/-- The wording for operations without a length. -/
def unmeasuredMessage (type : String) : String :=
  "object of type '" ++ type ++ "' has no len()"

/-- How far a submission has come. -/
inductive Phase where
  /-- It has not looked for an executor yet. -/
  | fresh
  /-- It stands in line at its connection's gate. -/
  | queued
  /-- Its task is being sent; the wait for the reply has begun. -/
  | sending (deadline : Option Time) (waiter : Nat)
  /-- It waits for the reply. -/
  | awaiting (deadline : Option Time) (waiter : Nat)
  | finished (outcome : Outcome)

/-- A submission. Connection, id and wire form are settled when it starts. -/
structure Submission where
  body : Json.Members
  connection : Nat
  taskId : Json
  wire : Json.Members
  phase : Phase
  cancelled : Bool

namespace Submission

/-- A submission that has not started. -/
def fresh (body : Json.Members) : Submission :=
  ⟨body, 0, .null, [], .fresh, false⟩

/-- The text that is sent. -/
def payload (s : Submission) : String :=
  Json.write (.object s.wire)

/-- Whether a submission has ended. -/
def isFinished (s : Submission) : Bool :=
  match s.phase with
  | .finished _ => true
  | _ => false

end Submission

/-- The id of a task, if it has one that counts. -/
def taskId? (body : Json.Members) : Option Json :=
  (body.lookup ↑"taskId").filter Json.isTruthy

/-- How a reply relates to the task that is waited for. -/
inductive ReplyClass where
  | invalid
  /-- It carries the id of another task. -/
  | stale
  | fitting (reply : Json.Members)

/-- Classifies a frame that came in while a task with an id was waited for. A reply without an id
fits every task. -/
def classify (taskId : Json) (frame : String) : ReplyClass :=
  match Frame.reply? frame with
  | none => .invalid
  | some reply => match reply.lookup ↑"taskId" with
    | none => .fitting reply
    -- Null is no id: such a reply cannot be told from one that carries none.
    | some .null => .fitting reply
    | some id => if Json.same id taskId then .fitting reply else .stale

end DesignBridge
