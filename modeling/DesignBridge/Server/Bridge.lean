import DesignBridge.Relay.Run
import DesignBridge.Server.Message
import DesignBridge.Site.States

/-! # The bridge

The state of the bridge: the world of its relay, the sockets of executors, the client of the site's
API, the states of authorizations, and the requests that wait for a submission to end. A part that
is not there, because it was never set up or was taken away, is not seen by the endpoints; the
relay keeps to its own registry all the same.
-/

namespace DesignBridge

/-- Where new names come from, and what stands for a reading of the clock in an answer. -/
structure Supply where
  taskId : Nat → String
  authState : Nat → String
  time : String

/-- What the bridge is set up with. -/
structure BridgeSetup where
  supply : Supply
  /-- The name of the host when a request does not give it. -/
  host : String
  port : Int
  timeout : Number
  origins : List String

/-- The socket of an executor. `running` tells whether frames are still taken in, and `attached`
whether anything can still be sent: it was not closed, and nothing that was sent has failed. -/
structure Socket where
  running : Bool
  attached : Bool
  deriving DecidableEq, Repr

/-- What can be seen of the bridge, in order. -/
inductive BridgeEvent where
  /-- A socket was refused. -/
  | refused (code : Int)
  | accepted (socket : Nat)
  | sent (socket : Nat) (payload : String)
  | closed (socket : Nat) (code : Int) (reason : String)
  | ended (socket : Nat)
  | responded (request : Nat) (response : Response)

/-- A request that waits for the end of a submission. -/
structure Pending where
  submission : Nat
  number : Nat
  request : Request

/-- The bridge. Sockets have the numbers of their connections in the relay's world. -/
structure Bridge where
  setup : BridgeSetup
  env : Environment
  world : World
  sockets : List Socket
  hasRegistry : Bool
  hasRelay : Bool
  client : Option SiteClient
  auth : AuthStates Float
  /-- What the clock by which states are issued shows, in seconds. -/
  clock : Float
  /-- How many states were issued. -/
  issued : Nat
  /-- How many requests came in. -/
  requests : Nat
  pending : List Pending
  events : List BridgeEvent

namespace Bridge

/-- The bridge before it is started: no part is there. -/
def idle (setup : BridgeSetup) (env : Environment) : Bridge where
  setup := setup
  env := env
  world := .fresh (.ofNumber setup.timeout)
  sockets := []
  hasRegistry := false
  hasRelay := false
  client := none
  auth := .fresh (Float.ofNat AuthStates.defaultLifetime)
  clock := 0
  issued := 0
  requests := 0
  pending := []
  events := []

/-- The bridge with a client, once it is started. -/
def started (setup : BridgeSetup) (env : Environment) (client : SiteClient) : Bridge :=
  { idle setup env with hasRegistry := true, hasRelay := true, client := some client }

/-- Starts the bridge. The client keeps the settings of that moment. -/
def start (setup : BridgeSetup) (env : Environment) : Except UrlFault Bridge :=
  (SiteClient.create (SiteSettings.load env)).map (started setup env)

def emit (b : Bridge) (event : BridgeEvent) : Bridge :=
  { b with events := b.events ++ [event] }

def modifySocket (b : Bridge) (c : Nat) (f : Socket → Socket) : Bridge :=
  { b with sockets := b.sockets.modify c f }

/-- The settings of the site as the environment gives them now. -/
def siteSettings (b : Bridge) : SiteSettings := SiteSettings.load b.env

def errorReply (b : Bridge) (error : String) : Json :=
  .object [("ok", .bool false), ("error", .text error), ("timestamp", .text b.setup.supply.time)]

/-- The answer to a request whose submission ended. -/
def concluded (b : Bridge) (outcome : Outcome) : Response :=
  match outcome.reply? with
  | some reply => Response.json 200 (.object reply)
  | none => match outcome with
    | .noPeer reason => Response.json 503 (b.errorReply reason.message)
    | _ => Response.breakdown (.relay outcome)

end Bridge

end DesignBridge
