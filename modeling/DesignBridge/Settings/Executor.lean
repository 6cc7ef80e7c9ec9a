import DesignBridge.Number.Numeral
import DesignBridge.Settings.Bridge

/-! # Settings of an executor

What is not given comes from the environment. A number that is zero counts as not given, except
for the count of reconnects.
-/

namespace DesignBridge

/-- What an executor is given when it is set up. -/
structure ExecutorOptions where
  url : Option String
  heartbeatInterval : Option Number
  maxReconnects : Option Number
  reconnectDelay : Option Number

/-- The options of an executor that is given nothing. -/
def ExecutorOptions.none : ExecutorOptions := ⟨.none, .none, .none, .none⟩

/-- The settings of an executor. -/
structure ExecutorSettings where
  url : String
  heartbeatInterval : Number
  maxReconnects : Number
  reconnectDelay : Number
  deriving DecidableEq

/-- What is said when an executor is set up. -/
inductive ExecutorWarning where
  | noDocument
  | plainRemote
  deriving DecidableEq, Repr

def ExecutorWarning.message : ExecutorWarning → String
  | noDocument => "No Designer session attached, using an in-memory document"
  | plainRemote =>
    "⚠️  Using ws:// to a remote host - this should only be used for local development!"

namespace ExecutorSettings

/-- The address of a bridge on the same machine. -/
def defaultUrl : String := "ws://127.0.0.1:8788/executor/ws"

/-- A number that is given and is not zero, or else a real number from the environment. -/
def numberOr (given : Option Number) (env : Environment) (name fallback : String) :
    Except NumeralError Number :=
  match given.filter (!·.isZero) with
  | some n => .ok n
  | none => (Numeral.real? (env.getD name fallback)).map .real

/-- Puts the settings together. The first number that cannot be read is reported. -/
def load (options : ExecutorOptions) (env : Environment) :
    Except NumeralError ExecutorSettings := do
  let url := (options.url.filter (· ≠ "")).getD (env.getD "BRIDGE_WS_URL" defaultUrl)
  let heartbeatInterval ← numberOr options.heartbeatInterval env "HEARTBEAT_INTERVAL" "30"
  let maxReconnects ← match options.maxReconnects with
    | some n => .ok n
    | none => (Numeral.int? (env.getD "MAX_RECONNECT_ATTEMPTS" "5")).map .int
  let reconnectDelay ← numberOr options.reconnectDelay env "RECONNECT_DELAY" "2.0"
  return ⟨url, heartbeatInterval, maxReconnects, reconnectDelay⟩

/-- Whether an address is without encryption and does not begin like one on this machine. -/
def isPlainRemote (url : String) : Bool :=
  Text.startsWith url "ws://" &&
    !(Text.startsWith url "ws://127.0.0.1" || Text.startsWith url "ws://localhost")

/-- What is said about the settings. -/
def warnings (settings : ExecutorSettings) (hasDocument : Bool) : List ExecutorWarning :=
  (if hasDocument then [] else [.noDocument]) ++
    (if isPlainRemote settings.url then [.plainRemote] else [])

end ExecutorSettings

end DesignBridge
