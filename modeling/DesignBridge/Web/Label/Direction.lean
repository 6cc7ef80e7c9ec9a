import DesignBridge.Web.Label.Mark

/-! # Directions in labels

The direction in which a character is written, and the rule for labels that are written from right
to left. The tables hold the characters that labels may hold, by version 14 of the Unicode character
database; their ranges run on over characters of no label.
-/

namespace DesignBridge.Label

open Text

/-- The direction of a character. -/
inductive Direction where
  | left
  | right
  /-- A letter of Arabic or of a script like it, from right to left. -/
  | arabic
  | arabicNumber
  | europeanNumber
  /-- A mark follows the character before it. -/
  | nonspacing
  | neutral
  deriving DecidableEq, Repr

/-- The characters from right to left. -/
def rightRanges : List (Nat × Nat) :=
  [(0x5D0, 0x5F4), (0x7C0, 0x7EA), (0x7F4, 0x7F5), (0x800, 0x815), (0x81A, 0x81A), (0x824, 0x824),
   (0x828, 0x828), (0x840, 0x858), (0x10800, 0x10A00), (0x10A10, 0x10A35), (0x10A60, 0x10AE4),
   (0x10B00, 0x10CF2), (0x10E80, 0x10EA9), (0x10EB0, 0x10F27), (0x10F70, 0x10F81),
   (0x10FB0, 0x10FF6), (0x1E800, 0x1E8C4), (0x1E922, 0x1E943), (0x1E94B, 0x1E959)]

/-- The letters of Arabic and of scripts like it. -/
def arabicRanges : List (Nat × Nat) :=
  [(0x620, 0x64A), (0x66E, 0x66F), (0x671, 0x6D5), (0x6E5, 0x6E6), (0x6EE, 0x6EF), (0x6FA, 0x710),
   (0x712, 0x72F), (0x74D, 0x7A5), (0x7B1, 0x7B1), (0x860, 0x88E), (0x8A0, 0x8C9), (0xFE73, 0xFE73),
   (0x10D00, 0x10D23), (0x10F30, 0x10F45)]

def arabicNumberRanges : List (Nat × Nat) :=
  [(0x660, 0x669), (0x10D30, 0x10D39)]

/-- The European numbers, and those that go with them. -/
def europeanNumberRanges : List (Nat × Nat) :=
  [(0x30, 0x39), (0x6F0, 0x6F9)]

/-- The characters without a direction. -/
def neutralRanges : List (Nat × Nat) :=
  [(0x2D, 0x2D), (0xB7, 0xB7), (0x2B9, 0x2BA), (0x2C6, 0x2CF), (0x2EC, 0x2EC), (0x375, 0x375),
   (0x200C, 0x200D), (0x2E2F, 0x2E2F), (0x30FB, 0x30FB), (0xA67F, 0xA67F), (0xA717, 0xA71F),
   (0xA788, 0xA788)]

/-- The marks that are written from left to right although they take no room. -/
def leftMarks : List Nat :=
  [0xCBF, 0xCC6, 0x11A07, 0x11A08, 0x11C3F]

def direction (c : Char) : Direction :=
  let n := c.toNat
  if isNonspacing c && !leftMarks.contains n then .nonspacing
  else if inRanges rightRanges n then .right
  else if inRanges arabicRanges n then .arabic
  else if inRanges arabicNumberRanges n then .arabicNumber
  else if inRanges europeanNumberRanges n then .europeanNumber
  else if inRanges neutralRanges n then .neutral
  else .left

/-- Whether a direction is from right to left, as that of a letter. -/
def Direction.isRightLetter : Direction → Bool
  | right | arabic => true
  | _ => false

/-- Whether a direction makes a label one from right to left. -/
def Direction.isRightward (d : Direction) : Bool :=
  d.isRightLetter || d == arabicNumber

/-- Whether a label from right to left may end in a direction. -/
def Direction.endsRight (d : Direction) : Bool :=
  d.isRightward || d == europeanNumber

/-- Whether directions fit together. From right to left a label begins with a letter, ends in a
letter or a number, marks aside, holds nothing from left to right, and no numbers of two kinds. -/
def directionsFit (ds : List Direction) : Bool :=
  !ds.any Direction.isRightward ||
    ds.head?.any Direction.isRightLetter && !ds.contains .left &&
      (ds.reverse.find? (· != .nonspacing)).any Direction.endsRight &&
      !(ds.contains .arabicNumber && ds.contains .europeanNumber)

end DesignBridge.Label
