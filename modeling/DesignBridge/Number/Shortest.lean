import DesignBridge.Number.Binary

/-! # Shortest decimals

The decimal with the fewest digits that rounds back to a given double, and of these the nearest.
For each digit count the two neighbours of the number on that decimal grid are tested: if any
point of the grid rounds back, one of these two does.
-/

namespace DesignBridge

/-- The number `0.d₁d₂…dₙ * 10^point`, with `digits = d₁d₂…dₙ`. -/
structure Decimal where
  digits : List Char
  point : Int
  deriving DecidableEq, Repr

namespace Decimal

/-- The power of a base whose exponent is the positive part of `e`. -/
def powPos (base : Nat) (e : Int) : Nat := Nat.pow base e.toNat

def compareScaled (a : Nat) (p : Int) (b : Nat) (q : Int) : Ordering :=
  compare (a * powPos 10 p * powPos 2 (-q)) (b * powPos 2 q * powPos 10 (-p))

/-- The largest `n` with `n * 10^p ≤ b * 2^q`. -/
def floorScaled (b : Nat) (q p : Int) : Nat :=
  b * powPos 2 q * powPos 10 (-p) / (powPos 2 (-q) * powPos 10 p)

/-- The decimals that round to a double: a range around it in quarters of its last binary place.
The ends belong to the range when the mantissa is even. -/
structure Range where
  low : Nat
  mid : Nat
  high : Nat
  exponent : Int
  closed : Bool
  deriving DecidableEq, Repr

/-- The range of the double `m * 2^q`. Below a power of two the spacing is half as wide. -/
def Range.ofBinary (m : Nat) (q : Int) : Range :=
  let low := if m = Binary.hiddenBit ∧ Binary.minExponent < q then 4 * m - 1 else 4 * m - 2
  ⟨low, 4 * m, 4 * m + 2, q - 2, m % 2 = 0⟩

/-- Whether `n * 10^p` rounds to the double of the range. -/
def Range.holds (r : Range) (n : Nat) (p : Int) : Bool :=
  match compareScaled n p r.low r.exponent, compareScaled n p r.high r.exponent with
  | .gt, .lt => true
  | .eq, _ => r.closed
  | _, .eq => r.closed
  | _, _ => false

/-- Of the neighbours `n` and `n + 1` on the grid `10^p` the one to write, if any rounds back:
the nearer one, and the even one when both are as near. -/
def Range.pick? (r : Range) (p : Int) : Option Nat :=
  let n := floorScaled r.mid r.exponent p
  match r.holds n p && n != 0, r.holds (n + 1) p with
  | true, true =>
    match compareScaled (2 * n + 1) p (2 * r.mid) r.exponent with
    | .gt => some n
    | .lt => some (n + 1)
    | .eq => some (if n % 2 = 0 then n else n + 1)
  | true, false => some n
  | false, true => some (n + 1)
  | false, false => none

/-- The exponent `s` with `10^s ≤ m * 2^q < 10^(s+1)`, for positive `m`. -/
def magnitude (m : Nat) (q : Int) : Int :=
  let guess := ((m.log2 : Int) + q) * 30103 / 100000
  if compareScaled 1 (guess + 1) m q != .gt then guess + 1
  else if compareScaled 1 guess m q != .gt then guess
  else guess - 1

/-- Tries the grids from coarse to fine, `count` of them, and takes the first hit. Without one the
number is cut off on the next grid. -/
def firstHit (r : Range) (p : Int) : Nat → Nat × Int
  | 0 => (max 1 (floorScaled r.mid r.exponent p), p)
  | count + 1 =>
    match r.pick? p with
    | some n => (n, p)
    | none => firstHit r (p - 1) count

/-- Drops the zeros at the end of a list of digits. -/
def dropTrailingZeros (ds : List Char) : List Char :=
  (ds.reverse.dropWhile (· == '0')).reverse

/-- The shortest decimal of the positive double `m * 2^q`. Seventeen digits always suffice. -/
def shortest (m : Nat) (q : Int) : Decimal :=
  let (n, p) := firstHit (Range.ofBinary m q) (magnitude m q) 17
  let ds := Nat.toDigits 10 n
  ⟨dropTrailingZeros ds, ds.length + p⟩

end Decimal

end DesignBridge
