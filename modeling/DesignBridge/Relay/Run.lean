import DesignBridge.Relay.Action

/-! # Running the relay

Between two outside events everything that can go on goes on, in order, and the clock stands
still. When nothing can go on, the clock moves straight to the next deadline.
-/

namespace DesignBridge.World

/-- Lets the first that can go on take a step, up to a number of times. -/
def settleWithin (mint : Nat → String) : Nat → World → World
  | 0, w => w
  | fuel + 1, w => if w.ready.isEmpty then w else settleWithin mint fuel (w.turn mint)

/-- Lets everyone go on until no one can. While the clock stands still a submission takes at most
four steps: it starts, gets its turn, ends sending and ends its wait. -/
def settle (mint : Nat → String) (w : World) : World :=
  settleWithin mint (w.ready.length + 4 * w.submissions.length + 1) w

/-- The earliest deadline. -/
def nextDeadline? (w : World) : Option Time :=
  (w.submissions.filterMap deadline?).foldl
    (fun best t => some (best.elim t fun b => if t < b then t else b)) none

/-- Times less than a nanosecond apart are not told apart. -/
def grain : Time := mkRat 1 1000000000

/-- Moves the clock from deadline to deadline up to a time, at most a number of times. A deadline
just behind that time is reached as well. -/
def advanceWithin (mint : Nat → String) (target : Time) : Nat → World → World
  | 0, w => if w.now < target then w.setNow target else w
  | fuel + 1, w =>
    match w.nextDeadline?.filter (· < target + grain) with
    | some t => advanceWithin mint target fuel ((w.setNow t).settle mint)
    | none => if w.now < target then w.setNow target else w

/-- Lets some time pass. Each deadline on the way ends a submission. -/
def advance (mint : Nat → String) (w : World) (seconds : Time) : World :=
  let w := w.settle mint
  advanceWithin mint (w.now + seconds) (w.submissions.length + 1) w

/-- The numbers of the connections on which a reply is awaited. -/
def awaiting (w : World) : List Nat :=
  (List.range w.ports.length).filter fun c => (w.ports[c]?).any (·.connection.isAwaiting)

end DesignBridge.World
