import DesignBridge.Number.Basic

/-! # Rounded decimals

A finite double with a fixed number of decimals, or of digits. All rounding goes to the nearest
decimal, and to the even one of two that are as near; it starts from the exact value, so there is
one rounding only.
-/

namespace DesignBridge

namespace Decimal

/-- The integer nearest to a fraction, and the even one of two that are as near. -/
def roundDiv (num den : Nat) : Nat :=
  let n := num / den
  match compare (2 * (num % den)) den with
  | .lt => n
  | .gt => n + 1
  | .eq => if n % 2 = 0 then n else n + 1

/-- `b * 2^q` in units of `10^p`, rounded. -/
def roundScaled (b : Nat) (q p : Int) : Nat :=
  roundDiv (b * powPos 2 q * powPos 10 (-p)) (powPos 2 (-q) * powPos 10 p)

/-- At least `count` decimal digits of a number, with zeros before it where it has fewer. -/
def digitsPadded (count n : Nat) : List Char :=
  let ds := Nat.toDigits 10 n
  List.replicate (count - ds.length) '0' ++ ds

/-- The first `count + 1` digits of `m * 2^q`, rounded, and the power of ten of the first one. -/
def leading (m : Nat) (q : Int) (count : Nat) : List Char × Int :=
  if m = 0 then (List.replicate (count + 1) '0', 0)
  else
    let top := magnitude m q
    let n := roundScaled m q (top - count)
    if n < powPos 10 (count + 1) then (digitsPadded (count + 1) n, top)
    else (digitsPadded (count + 1) (n / 10), top + 1)

/-- Digits with a point after the first `whole` of them. A point with nothing behind it stands only
where it is asked for. -/
def withPoint (pointed : Bool) (whole : Nat) (ds : List Char) : List Char :=
  let fraction := ds.drop whole
  ds.take whole ++ (if fraction.isEmpty && !pointed then [] else '.' :: fraction)

/-- `m * 2^q` with so many decimals. -/
def fixed (pointed : Bool) (places m : Nat) (q : Int) : List Char :=
  let ds := digitsPadded (places + 1) (roundScaled m q (-places))
  withPoint pointed (ds.length - places) ds

/-- `m * 2^q` as one digit, so many decimals and a power of ten. -/
def scientific (pointed : Bool) (places m : Nat) (q : Int) : List Char :=
  let (ds, top) := leading m q places
  withPoint pointed 1 ds ++ Number.exponentText top

/-- `m * 2^q` with so many digits in all, the first way as long as the point stands among them or
at most four zeros before them, and with a power of ten otherwise. Zeros at the end of the decimals
are dropped, unless the point is asked for. -/
def general (pointed : Bool) (count m : Nat) (q : Int) : List Char :=
  let count := max count 1
  let (ds, top) := leading m q (count - 1)
  let kept (whole : Nat) (ds : List Char) : List Char :=
    if pointed then ds else ds.take whole ++ dropTrailingZeros (ds.drop whole)
  if -4 ≤ top ∧ top < count then
    let ds := List.replicate (-top).toNat '0' ++ ds
    let whole := top.toNat + 1
    withPoint pointed whole (kept whole ds)
  else
    withPoint pointed 1 (kept 1 ds) ++ Number.exponentText top

end Decimal

end DesignBridge
