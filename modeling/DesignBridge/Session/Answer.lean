import DesignBridge.Document.Execute
import DesignBridge.Json.Reader

/-! # Answers

An executor answers every task frame with one reply: the results of the operations, or the reason
why the frame holds no task. A task id that is no text cannot be put into a reply; then there is
none, although the operations were run.
-/

namespace DesignBridge.Session

/-- The operations and the id of a task frame. -/
def taskOf (frame : String) : Except String (List Json × Json) :=
  match Json.read? frame with
  | .error e => .error e.message
  | .ok payload => match payload.get? "ops" with
    | some (.list operations) => .ok (operations, (payload.get? "taskId").getD .null)
    | _ => .error "Task must be an object with an 'ops' list"

def replyWith (results : List OperationResult) (taskId : Json) : Checked Reply :=
  (fun id => ⟨true, some results, id, none, none⟩) <$>
    (Validation.nullable Validation.readText taskId).under (.key Reply.idKey.plain)

/-- Answers one frame: the document after it, and the wire form of the reply. -/
def answer (i : Interpreter) (d : Document) (frame : String) : Document × Checked Json :=
  match taskOf frame with
  | .error reason => (d, .accepted (Reply.toWire ⟨false, none, none, some reason, none⟩))
  | .ok (operations, taskId) =>
    let (d, results) := i.run d (operations.map .raw)
    (d, (replyWith results taskId).map Reply.toWire)

end DesignBridge.Session
