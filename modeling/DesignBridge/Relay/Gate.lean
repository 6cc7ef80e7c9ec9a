/-! # Gates

A gate lets one submission at a time through to a connection. The others stand in line and go in
the order in which they came. Leaving the gate calls the first in line; who is called has still to
come back and take its turn, and until then a newcomer joins the line.
-/

namespace DesignBridge

/-- The state of a place in line. -/
inductive Turn where
  | waiting
  | called
  | withdrawn
  deriving DecidableEq, Repr

/-- A gate: whether someone is through, and the line. -/
structure Gate where
  held : Bool
  line : List (Nat × Turn)
  deriving DecidableEq, Repr

namespace Gate

/-- A gate that no one has come to. -/
def fresh : Gate := ⟨false, []⟩

/-- Whether a newcomer may go through at once. -/
def isOpen (g : Gate) : Bool :=
  !g.held && g.line.all fun (_, turn) => turn == .withdrawn

/-- Goes through. -/
def take (g : Gate) : Gate :=
  { g with held := true }

def join (g : Gate) (who : Nat) : Gate :=
  { g with line := g.line ++ [(who, .waiting)] }

/-- The state of someone's place in line. -/
def turn? (g : Gate) (who : Nat) : Option Turn :=
  g.line.lookup who

/-- Withdraws from the line. The place is kept until its holder comes back. A turn that was called
already stays so. -/
def withdraw (g : Gate) (who : Nat) : Gate :=
  { g with line := g.line.map fun (other, turn) =>
      (other, if other = who ∧ turn = .waiting then .withdrawn else turn) }

/-- Calls the first in line, if it is waiting; also gives who is called. -/
def call (g : Gate) : Gate × Option Nat :=
  match g.line with
  | (who, .waiting) :: rest => ({ g with line := (who, .called) :: rest }, some who)
  | _ => (g, none)

/-- Gives up a place in line. -/
def drop (g : Gate) (who : Nat) : Gate :=
  { g with line := g.line.filter fun (other, _) => other != who }

/-- Leaves the gate and calls the next. -/
def leave (g : Gate) : Gate × Option Nat :=
  { g with held := false }.call

/-- Comes back to the line only to leave it; if no one is through, the next is called. -/
def leaveLine (g : Gate) (who : Nat) : Gate × Option Nat :=
  let g := g.drop who
  if g.held then (g, none) else g.call

end Gate

end DesignBridge
