/-! # Punycode

The ASCII form of a label of a host name, written and read. The ASCII characters come first; the
others follow as numbers that say where each is to be inserted, in ascending order of the
characters. The digits of these numbers are weighted by a bias that adapts to what was written
before.
-/

namespace DesignBridge.Punycode

/-- The character of a digit: letters first, then the ten digits. -/
def digit (n : Nat) : Char :=
  if n < 26 then Char.ofNat (0x61 + n) else Char.ofNat (0x30 + n - 26)

/-- From which value on the digit at place `k` is not the last one. -/
def threshold (k bias : Nat) : Nat :=
  if k ≤ bias then 1 else if bias + 26 ≤ k then 26 else k - bias

theorem one_le_threshold (k bias : Nat) : 1 ≤ threshold k bias := by
  unfold threshold
  split
  · omega
  · split <;> omega

/-- A number as digits from place `k` on. -/
def digits (bias k n : Nat) : List Char :=
  let t := threshold k bias
  if n < t then [digit n]
  else digit (t + (n - t) % (36 - t)) :: digits bias (k + 36) ((n - t) / (36 - t))
termination_by n
decreasing_by
  have h := one_le_threshold k bias
  have := Nat.div_le_self (n - threshold k bias) (36 - threshold k bias)
  omega

/-- Brings a number down below a limit; also counts the steps. -/
def shrink (n k : Nat) : Nat × Nat :=
  if 455 < n then shrink (n / 35) (k + 36) else (n, k)
termination_by n

/-- The bias after a number was written. -/
def adapt (n count : Nat) (first : Bool) : Nat :=
  let n := if first then n / 700 else n / 2
  let (n, k) := shrink (n + n / count) 0
  k + 36 * n / (n + 38)

/-- What is known while characters are inserted. -/
structure State where
  output : List Char
  delta : Nat
  bias : Nat
  handled : Nat

/-- Passes a character of the label while `m` is inserted; `basic` counts the ASCII characters. -/
def pass (basic m : Nat) (s : State) (c : Char) : State :=
  if c.toNat < m then { s with delta := s.delta + 1 }
  else if c.toNat = m then
    { output := s.output ++ digits s.bias 36 s.delta
      delta := 0
      bias := adapt s.delta (s.handled + 1) (s.handled == basic)
      handled := s.handled + 1 }
  else s

/-- Inserts characters in ascending order; the first number is one more than the last of those
that were inserted before. -/
def insertFrom (label : List Char) (basic : Nat) : Nat → List Nat → State → State
  | _, [], s => s
  | n, m :: rest, s =>
    let s := label.foldl (pass basic m) { s with delta := s.delta + (m - n) * (s.handled + 1) }
    insertFrom label basic (m + 1) rest { s with delta := s.delta + 1 }

def encode (label : List Char) : List Char :=
  let ascii := label.filter (·.toNat < 0x80)
  let others := (label.filter (0x80 ≤ ·.toNat)).map Char.toNat
  let order := (others.mergeSort (· ≤ ·)).eraseDups
  let s := insertFrom label ascii.length 0x80 order ⟨[], 0, 72, ascii.length⟩
  (if ascii.isEmpty then [] else ascii ++ ['-']) ++ s.output

def digitValue? (c : Char) : Option Nat :=
  if 'a' ≤ c ∧ c ≤ 'z' then some (c.toNat - 0x61)
  else if 'A' ≤ c ∧ c ≤ 'Z' then some (c.toNat - 0x41)
  else if '0' ≤ c ∧ c ≤ '9' then some (c.toNat - 0x30 + 26)
  else none

theorem digitValue?_digit : ∀ n < 36, digitValue? (digit n) = some n := by
  decide

/-- Reads a number from the digit at place `k` on, which has a weight; `n` is what the digits before
it make. -/
def readNumber (bias : Nat) : Nat → Nat → Nat → List Char → Option (Nat × List Char)
  | _, _, _, [] => none
  | k, weight, n, c :: rest =>
    match digitValue? c with
    | none => none
    | some d =>
      let t := threshold k bias
      let n := n + d * weight
      if d < t then some (n, rest) else readNumber bias (k + 36) (weight * (36 - t)) n rest

/-- A character that a number stands for. -/
def charOf? (n : Nat) : Option Char :=
  if n < 0xD800 ∨ (0xDFFF < n ∧ n < 0x110000) then some (Char.ofNat n) else none

/-- Inserts the characters that numbers say; the first argument bounds how many there are. The last
one inserted was `m`, and the next place is `place`. -/
def insertAll : Nat → Nat → Nat → Nat → Bool → List Char → List Char → Option (List Char)
  | _, _, _, _, _, label, [] => some label
  | 0, _, _, _, _, _, _ => none
  | fuel + 1, m, place, bias, first, label, cs =>
    match readNumber bias 36 1 0 cs with
    | none => none
    | some (delta, rest) =>
      let count := label.length + 1
      let m := m + (place + delta) / count
      let place := (place + delta) % count
      match charOf? m with
      | none => none
      | some c =>
        insertAll fuel m (place + 1) (adapt delta count first) false
          (label.take place ++ c :: label.drop place) rest

/-- Reads the ASCII form of a label. -/
def decode? (cs : List Char) : Option (List Char) :=
  let behind := (cs.reverse.takeWhile (· ≠ '-')).reverse
  insertAll behind.length 0x80 0 72 true (cs.take (cs.length - behind.length - 1)) behind

end DesignBridge.Punycode
