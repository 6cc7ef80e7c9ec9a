import DesignBridge.Number.Shortest

/-! # Numbers

A number is an integer of any size or a double. The two kinds are kept apart in text, and are
compared by value.
-/

namespace DesignBridge

/-- An integer or a double. -/
inductive Number where
  | int (n : Int)
  | real (x : Float)
  deriving DecidableEq

namespace Number

/-- The exponent part of a decimal: a sign and at least two digits. -/
def exponentText (e : Int) : List Char :=
  let ds := Nat.toDigits 10 e.natAbs
  'e' :: (if e < 0 then '-' else '+') :: (if ds.length < 2 then '0' :: ds else ds)

/-- Lays out a decimal. The point stands among the digits or at most three zeros before them, as
long as at most sixteen digits precede it; otherwise an exponent is written. -/
def layOut (d : Decimal) : List Char :=
  if -4 < d.point ∧ d.point ≤ 16 then
    if d.point ≤ 0 then
      '0' :: '.' :: List.replicate (-d.point).toNat '0' ++ d.digits
    else
      let whole := d.point.toNat
      let front := d.digits.take whole ++ List.replicate (whole - d.digits.length) '0'
      let back := d.digits.drop whole
      front ++ '.' :: (if back.isEmpty then ['0'] else back)
  else
    match d.digits with
    | [] => []
    | lead :: rest =>
      (if rest.isEmpty then [lead] else lead :: '.' :: rest) ++ exponentText (d.point - 1)

/-- The text of a double: the fewest digits that read back, `nan`, `inf` or `-inf`. -/
def realText (x : Float) : String :=
  match Binary.ofFloat? x with
  | none => if x.isNaN then "nan" else if x < 0 then "-inf" else "inf"
  | some b =>
    let size := if b.mantissa = 0 then ['0', '.', '0']
      else layOut (Decimal.shortest b.mantissa b.exponent)
    String.ofList (if b.negative then '-' :: size else size)

/-- The text of an integer in base ten. -/
def intText (n : Int) : String :=
  String.ofList ((if n < 0 then ['-'] else []) ++ Nat.toDigits 10 n.natAbs)

def text : Number → String
  | int n => intText n
  | real x => realText x

def isZero : Number → Bool
  | int n => n == 0
  | real x => x == 0

/-- The double nearest to a number. -/
def toFloat : Number → Float
  | int n => Float.ofInt n
  | real x => x

/-- Whether a number is an integer beyond all doubles. -/
def exceedsDoubles : Number → Bool
  | int n => !(Float.ofInt n).isFinite
  | real _ => false

/-- What is said of an integer beyond all doubles where a double is needed. -/
def exceedsDoublesMessage : String := "int too large to convert to float"

/-- The exact value of a finite number. -/
def toRat? : Number → Option Rat
  | int n => some n
  | real x => (Binary.ofFloat? x).map Binary.toRat

/-- Equality by value. What is not a number differs from everything. -/
def same : Number → Number → Bool
  | int m, int n => m == n
  | real x, real y => x == y
  | int m, real y => match Binary.ofFloat? y with
    | some b => b.isIntegral && b.truncate == m
    | none => false
  | real x, int n => match Binary.ofFloat? x with
    | some b => b.isIntegral && b.truncate == n
    | none => false

/-- Order by value between a natural number and a number; false when the latter has no order. -/
def le (m : Number) (n : Nat) : Bool :=
  match m with
  | int k => k ≤ n
  | real x => match Binary.ofFloat? x with
    | some b => b.toRat ≤ n
    | none => x < 0

end Number

end DesignBridge
