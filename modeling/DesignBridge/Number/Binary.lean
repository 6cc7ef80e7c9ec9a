/-! # Binary numbers

A finite double is an integer times a power of two. The other modules on numbers work on this
form in exact arithmetic.
-/

namespace DesignBridge

/-- The number `(-1)^negative * mantissa * 2^exponent`. -/
structure Binary where
  negative : Bool
  mantissa : Nat
  exponent : Int
  deriving DecidableEq, Repr

namespace Binary

/-- Exponent of the smallest positive double, and of all that share its spacing. -/
def minExponent : Int := -1074

/-- The bit above the stored digits of a double, which stands in the mantissa of all but the
smallest. -/
def hiddenBit : Nat := 1 <<< 52

/-- The parts of a finite double; `none` for an infinity and for what is not a number. -/
def ofFloat? (x : Float) : Option Binary :=
  let bits : Nat := x.toBits.toNat
  let negative := bits.testBit 63
  let field := (bits >>> 52) % 2048
  let fraction := bits % hiddenBit
  if field = 2047 then none
  else if field = 0 then some ⟨negative, fraction, minExponent⟩
  else some ⟨negative, hiddenBit + fraction, minExponent + (field : Int) - 1⟩

/-- The number without its fraction, rounded toward zero. -/
def truncate (b : Binary) : Int :=
  let size : Nat := if b.exponent < 0 then b.mantissa >>> (-b.exponent).toNat
    else b.mantissa <<< b.exponent.toNat
  if b.negative then -(size : Int) else size

/-- The number as an exact fraction. -/
def toRat (b : Binary) : Rat :=
  let size : Rat := if b.exponent < 0 then mkRat b.mantissa (1 <<< (-b.exponent).toNat)
    else ((b.mantissa <<< b.exponent.toNat : Nat) : Rat)
  if b.negative then -size else size

/-- Whether the number has no fraction. -/
def isIntegral (b : Binary) : Bool :=
  0 ≤ b.exponent || b.mantissa % (1 <<< (-b.exponent).toNat) == 0

end Binary

end DesignBridge
