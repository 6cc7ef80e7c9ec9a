import DesignBridge.Session.Answer
import DesignBridge.Settings.Executor

/-! # The executor on a terminal

An executor whose other side is a terminal: it reads task frames from standard input, one on a
line, works on a document in memory, and writes one reply to each on a line of standard output.
Warnings about its settings go to standard error.
-/

namespace DesignBridge.Terminal

/-- The variables that settings come from. -/
def variableNames : List String :=
  ["BRIDGE_WS_URL", "HEARTBEAT_INTERVAL", "MAX_RECONNECT_ATTEMPTS", "RECONNECT_DELAY"]

/-- The variables that are set. -/
def environment : IO Environment :=
  variableNames.foldlM
    (fun env name => return Environment.assign env name (← IO.getEnv name)) .empty

/-- The line to write for a reply; a reply that cannot be put together leaves none. -/
def line? : Checked Json → Option String
  | .accepted reply => some reply.write
  | .rejected _ => none

/-- Answers frames until the input ends. -/
partial def serve (input output : IO.FS.Stream) (d : Document) : IO Unit := do
  let frame ← input.getLine
  if frame.isEmpty then return
  let clock := Number.real ((← IO.monoMsNow).toFloat / 1000)
  let (d, reply) := Session.answer ⟨identifierAttribute, clock⟩ d frame
  if let some line := line? reply then
    output.putStrLn line
    output.flush
  serve input output d

end DesignBridge.Terminal

open DesignBridge in
/-- Reads the settings, warns about them, and answers frames. -/
def main : IO UInt32 := do
  match ExecutorSettings.load ExecutorOptions.none (← Terminal.environment) with
  | .error e =>
    IO.eprintln e.message
    return 1
  | .ok settings =>
    for warning in settings.warnings false do
      IO.eprintln warning.message
    Terminal.serve (← IO.getStdin) (← IO.getStdout) .fresh
    return 0
