import DesignBridge.Number.Basic

/-! # Time and patience

Time is counted in seconds from a fixed moment; rational numbers keep it exact. How long a reply is
waited for is given as a number, which need not be finite: without end is for ever, and what is not
a number is no time at all.
-/

namespace DesignBridge

/-- A point in time, or a length of time, in seconds. -/
abbrev Time := Rat

/-- How long a reply is waited for. -/
inductive Patience where
  | endless
  | lasting (length : Time)
  /-- An integer that no clock can count to. -/
  | overlong
  deriving DecidableEq

namespace Patience

def ofNumber (seconds : Number) : Patience :=
  if seconds.exceedsDoubles then overlong
  else match seconds.toRat? with
    | some length => lasting length
    | none => if 0 < seconds.toFloat then endless else lasting 0

/-- The time up to which a reply is waited for, from a time on; none if there is no such time. -/
def deadline? (now : Time) : Patience → Option Time
  | lasting length => some (now + length)
  | _ => none

end Patience

end DesignBridge
