import DesignBridge.Text.CaseTable
import DesignBridge.Text.Rune

/-! # Letter case

Full case mapping of text. A mapping may lengthen the text, and the lower-case form of a capital
sigma depends on its neighbours: at the end of a word it is the final form. Half of a surrogate pair
stays as it is, and ends a word.
-/

namespace DesignBridge.Text

/-- The entry of a table of strided runs that a code point falls in, applied to it. -/
def mapByRuns (runs : List (Nat × Nat × Nat × Int)) (n : Nat) : Nat :=
  match runs.find? fun (first, last, stride, _) =>
      first ≤ n && n ≤ last && (n - first) % stride == 0 with
  | some (_, _, _, distance) => (Int.ofNat n + distance).toNat
  | none => n

/-- Whether a code point lies in one of some inclusive ranges. -/
def inRanges (ranges : List (Nat × Nat)) (n : Nat) : Bool :=
  ranges.any fun (first, last) => first ≤ n && n ≤ last

/-- The lower-case form of one character out of context. -/
def lowerChar (c : Char) : List Char :=
  if c.toNat < 0x80 then [if 'A' ≤ c ∧ c ≤ 'Z' then Char.ofNat (c.toNat + 32) else c]
  else if c.toNat = 0x130 then ['i', Char.ofNat 0x307]
  else [Char.ofNat (mapByRuns lowerRuns c.toNat)]

def upperChar (c : Char) : List Char :=
  if c.toNat < 0x80 then [if 'a' ≤ c ∧ c ≤ 'z' then Char.ofNat (c.toNat - 32) else c]
  else match upperSequences.lookup c.toNat with
    | some sequence => sequence.map Char.ofNat
    | none => [Char.ofNat (mapByRuns upperRuns c.toNat)]

/-- Whether the nearest character that is not case-ignorable is a cased one. -/
def meetsCased : List Char → Bool
  | [] => false
  | c :: rest =>
    if inRanges caseIgnorableRanges c.toNat then meetsCased rest
    else inRanges casedRanges c.toNat

/-- The lower-case form of a character between others: those before it, nearest first, and those
behind it. -/
def lowerBetween (before after : List Char) (c : Char) : List Char :=
  if c.toNat = 0x3A3 then
    [Char.ofNat (if meetsCased before && !meetsCased after then 0x3C2 else 0x3C3)]
  else lowerChar c

/-- Lower-cases the second list; the first holds the characters before it, nearest first. -/
def lowerAfter : List Char → List Char → List Char
  | _, [] => []
  | before, c :: rest => lowerBetween before rest c ++ lowerAfter (c :: before) rest

def lower (s : String) : String :=
  String.ofList (lowerAfter [] s.toList)

def upper (s : String) : String :=
  String.ofList (s.toList.flatMap upperChar)

/-- The lower-case form of a text as far as its letters are ASCII. -/
def lowerAscii (s : String) : String :=
  String.ofList (s.toList.map fun c =>
    if 'A' ≤ c ∧ c ≤ 'Z' then Char.ofNat (c.toNat + 32) else c)

end DesignBridge.Text

namespace DesignBridge.Runes

/-- Lower-cases the second list; the first holds the characters just before it, nearest first. -/
def lowerAfter : List Char → List Rune → List Rune
  | _, [] => []
  | _, .half n :: rest => .half n :: lowerAfter [] rest
  | before, .char c :: rest =>
    (Text.lowerBetween before (Rune.leading rest).1 c).map .char ++ lowerAfter (c :: before) rest

def lower (r : Runes) : Runes :=
  ⟨lowerAfter [] r.list⟩

end DesignBridge.Runes
