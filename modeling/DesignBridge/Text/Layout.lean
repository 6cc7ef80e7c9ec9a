/-! # Layout

How a text or a number fills the width that it is given.
-/

namespace DesignBridge.Text

/-- What is asked of the place that a text or a number takes. -/
structure Layout where
  /-- Stands at the left end of its width. -/
  left : Bool := false
  /-- A number is widened with zeros. -/
  zeros : Bool := false
  /-- The sign of a number that is not negative is written. -/
  plus : Bool := false
  /-- A blank is written in place of that sign. -/
  blank : Bool := false
  /-- The longer form of a number is written. -/
  alternate : Bool := false
  /-- The least width. -/
  width : Nat := 0
  /-- The most characters of a text, the fewest digits of an integer, the decimals of a double. -/
  limit : Option Nat := none
  deriving DecidableEq, Repr

/-- What is laid out. -/
inductive Content where
  /-- A text, of which no more than the limit is shown. -/
  | text (cs : List Char)
  /-- A text that is shown whole. -/
  | whole (cs : List Char)
  /-- A number: its sign, a mark such as that of its base, and its digits. -/
  | number (negative : Bool) (mark digits : List Char)
  deriving DecidableEq, Repr

namespace Layout

/-- The characters that fill up the width. -/
def padding (layout : Layout) (taken : Nat) (c : Char) : List Char :=
  List.replicate (layout.width - taken) c

/-- Lays out characters. -/
def place (layout : Layout) (cs : List Char) : List Char :=
  let pad := layout.padding cs.length ' '
  if layout.left then cs ++ pad else pad ++ cs

/-- The sign of a number. -/
def sign (layout : Layout) (negative : Bool) : List Char :=
  if negative then ['-'] else if layout.plus then ['+'] else if layout.blank then [' '] else []

/-- Lays out a text or a number. Zeros stand between the mark and the digits of a number, blanks
outside of all. -/
def write (layout : Layout) : Content → List Char
  | .text cs => layout.place (match layout.limit with
    | some n => cs.take n
    | none => cs)
  | .whole cs => layout.place cs
  | .number negative mark digits =>
    let front := layout.sign negative ++ mark
    if layout.zeros && !layout.left then
      front ++ layout.padding (front.length + digits.length) '0' ++ digits
    else layout.place (front ++ digits)

theorem place_eq_self {layout : Layout} {cs : List Char} (h : layout.width ≤ cs.length) :
    layout.place cs = cs := by
  have : layout.width - cs.length = 0 := by omega
  unfold place padding
  split <;> simp [this]

theorem length_place (layout : Layout) (cs : List Char) :
    (layout.place cs).length = max layout.width cs.length := by
  unfold place padding
  split <;> simp <;> omega

end Layout

end DesignBridge.Text
