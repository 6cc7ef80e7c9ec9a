import DesignBridge.Server.Cors
import DesignBridge.Server.Handle

/-! # Actions on the bridge

Everything that can happen to the bridge, one thing at a time: executors come, send frames and hang
up, requests come in, and between any two of these the relay's submissions take steps in any order.
The newest executor is always the current one; the one before is closed at once, and the end of its
intake comes later.
-/

namespace DesignBridge

namespace Bridge

/-! ## What the relay did -/

/-- Takes up an event of the relay's world. -/
def absorb (b : Bridge) : RelayEvent → Bridge
  | .sent c payload => b.emit (.sent c payload)
  | .sendFailed c => b.modifySocket c ({ · with attached := false })
  | .closed c code reason => b.emit (.closed c code reason)
  | .finished i outcome => match b.pending.find? (·.submission == i) with
    | none => b
    | some p =>
      { b with pending := b.pending.filter (·.submission != i) }.emit
        (.responded p.number (Cors.share b.setup.origins p.request (b.concluded outcome)))

/-- Takes up all events of the relay's world. -/
def absorbAll (b : Bridge) : Bridge :=
  b.world.events.foldl absorb { b with world := { b.world with events := [] } }

/-! ## Executors -/

/-- The code with which a socket is refused when the bridge is not started. -/
def notReadyCode : Int := 1013

/-- The code with which an executor is closed when another takes over. -/
def supersededCode : Int := 4000

/-- The reason that goes with it. -/
def supersededReason : String := "Superseded by a newer executor connection"

/-- Whether what is sent on a socket can arrive. -/
def isReachable (b : Bridge) (c : Nat) : Bool :=
  b.sockets[c]?.any Socket.attached && (b.world.ports[c]?.map Port.link).any (· = .up)

/-- Closes the executor that another took over from. Its intake goes on until it hangs up or the
next frame comes; if closing fails, it counts as closed all the same. -/
def supersede (b : Bridge) (c : Nat) : Bridge :=
  let world := if b.isReachable c then b.world.close c supersededCode supersededReason
    else b.world.modifyConnection c Connection.close
  { b with world }.absorbAll.modifySocket c ({ · with attached := false })

/-- Lets an executor in, and makes it the current one. -/
def letIn (b : Bridge) (peer : String) : Bridge :=
  let (world, c) := b.world.connect peer
  let b : Bridge := { b with world, sockets := b.sockets ++ [⟨true, true⟩] }
  b.emit (.accepted c)

/-- Lets an executor in, which takes over from the one that is current. -/
def takeOver (b : Bridge) (peer : String) : Bridge :=
  b.world.current?.elim (b.letIn peer) (b.letIn peer).supersede

/-- Whether frames are taken in from a socket. -/
def isRunning (b : Bridge) (c : Nat) : Bool :=
  b.sockets[c]?.any Socket.running

/-- Ends the intake of a socket: its connection counts as closed, and is not current any more. -/
def endSocket (b : Bridge) (c : Nat) : Bridge :=
  let world := b.world.modifyConnection c Connection.close
  let world := if b.hasRegistry then (world.unregister c).1 else world
  ({ b with world }.modifySocket c ({ · with running := false })).emit (.ended c)

/-- Takes in one frame. Where nothing can be sent any more it is the last one. -/
def takeFrame (b : Bridge) (c : Nat) (frame : String) : Bridge :=
  if !b.isRunning c then b
  else
    let b := { b with world := (b.world.deliver c frame).1 }
    if b.sockets[c]?.any Socket.attached then b else b.endSocket c

/-! ## Requests -/

/-- Answers a request. -/
def respond (b : Bridge) (number : Nat) (request : Request) (response : Response) : Bridge :=
  b.emit (.responded number (Cors.share b.setup.origins request response))

/-- Takes in a request; a task is handed to the relay, and answered when its submission has ended.
What the site's API would answer is given; the request that is made to it is told, if there is
one. -/
def takeRequest (b : Bridge) (request : Request) (site : SiteAnswer) :
    Bridge × Option SiteRequest :=
  let number := b.requests
  let b := { b with requests := number + 1 }
  match Cors.preflight? b.setup.origins request with
  | some response => (b.emit (.responded number response), none)
  | none => match Endpoint.find b.setup.host request with
    | .error response => (b.respond number request response, none)
    | .ok endpoint => match b.react endpoint request with
      | (b, .call call) => (b.respond number request (call.result site), call.request?)
      | (b, .submit task) =>
        let (world, i) := b.world.submit task
        ({ b with world, pending := b.pending ++ [⟨i, number, request⟩] }, none)

end Bridge

/-- One thing that happens to the bridge. Sockets and submissions go by their numbers. -/
inductive BridgeAction where
  /-- An executor connects. -/
  | connect (peer : String)
  | frame (socket : Nat) (text : String)
  /-- The other side closes a socket. -/
  | hangUp (socket : Nat)
  | request (request : Request) (site : SiteAnswer)
  /-- Something changes for what is sent on a socket. -/
  | setLink (socket : Nat) (link : Link)
  | cancel (submission : Nat)
  /-- A submission takes a step, if it can go on. -/
  | resume (submission : Nat)
  /-- Time passes. -/
  | wait (seconds : Number)

namespace Bridge

/-- Lets something happen to the relay. -/
def letRelay (b : Bridge) (action : RelayAction) : Bridge :=
  { b with world := b.world.act b.setup.supply.taskId action }.absorbAll

/-- The bridge after an action. -/
def act (b : Bridge) : BridgeAction → Bridge
  | .connect peer => if b.hasRegistry then b.takeOver peer else b.emit (.refused notReadyCode)
  | .frame c text => b.takeFrame c text
  | .hangUp c => if b.isRunning c then b.endSocket c else b
  | .request request site => (b.takeRequest request site).1
  | .setLink c link => b.letRelay (.setLink c link)
  | .cancel i => b.letRelay (.cancel i)
  | .resume i => b.letRelay (.resume i)
  | .wait seconds =>
    { b.letRelay (.wait (seconds.toRat?.getD 0)) with clock := b.clock + seconds.toFloat }

/-- The bridge after a history. -/
def play (b : Bridge) (history : List BridgeAction) : Bridge :=
  history.foldl act b

end Bridge

end DesignBridge
