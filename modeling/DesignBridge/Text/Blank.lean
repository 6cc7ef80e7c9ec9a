import DesignBridge.Text.Rune

/-! # Blanks

Blanks are the white space of the Unicode character database together with the four information
separators U+001C to U+001F. Trimming and cutting work on the list of characters or runes; half of a
surrogate pair is no blank.
-/

namespace DesignBridge.Text

/-- White space of Unicode, and the information separators. -/
def isBlank (c : Char) : Bool :=
  let n := c.toNat
  (0x09 ≤ n && n ≤ 0x0D) || (0x1C ≤ n && n ≤ 0x20) || n == 0x85 || n == 0xA0 || n == 0x1680 ||
    (0x2000 ≤ n && n ≤ 0x200A) || n == 0x2028 || n == 0x2029 || n == 0x202F || n == 0x205F ||
    n == 0x3000

/-- Drops what is in the class `p` from both ends. -/
def trimBy {α : Type} (p : α → Bool) (cs : List α) : List α :=
  ((cs.dropWhile p).reverse.dropWhile p).reverse

/-- Drops the blanks at both ends. -/
def trim (s : String) : String :=
  String.ofList (trimBy isBlank s.toList)

/-- Cuts at every occurrence of `sep`; there is always one piece more than there are separators. -/
def splitAt {α : Type} [DecidableEq α] (sep : α) : List α → List (List α)
  | [] => [[]]
  | c :: rest =>
    if c = sep then [] :: splitAt sep rest
    else match splitAt sep rest with
      | [] => [[c]]
      | piece :: pieces => (c :: piece) :: pieces

def split (sep : Char) (s : String) : List String :=
  (splitAt sep s.toList).map String.ofList

/-- The maximal runs of characters outside the class `p`, in order. -/
def runsOutside (p : Char → Bool) : List Char → List (List Char)
  | [] => []
  | c :: rest =>
    if p c then runsOutside p rest
    else match rest with
      | [] => [[c]]
      | d :: _ =>
        if p d then [c] :: runsOutside p rest
        else match runsOutside p rest with
          | [] => [[c]]
          | run :: runs => (c :: run) :: runs

/-- The words of a text: its maximal runs without blanks. -/
def words (s : String) : List String :=
  (runsOutside isBlank s.toList).map String.ofList

/-- Whether `needle` occurs in `cs` as consecutive characters. -/
def occursIn (needle : List Char) : List Char → Bool
  | [] => needle.isEmpty
  | c :: rest => needle.isPrefixOf (c :: rest) || occursIn needle rest

/-- Whether a text holds another as consecutive characters. -/
def contains (s needle : String) : Bool :=
  occursIn needle.toList s.toList

def startsWith (s start : String) : Bool :=
  start.toList.isPrefixOf s.toList

/-- Writes the pieces with `sep` between neighbours. -/
def joinWith (sep : String) : List String → String
  | [] => ""
  | [piece] => piece
  | piece :: rest => piece ++ sep ++ joinWith sep rest

theorem splitAt_ne_nil {α : Type} [DecidableEq α] (sep : α) (cs : List α) :
    splitAt sep cs ≠ [] := by
  cases cs with
  | nil => simp [splitAt]
  | cons c rest =>
    unfold splitAt
    split
    · simp
    · split <;> simp

end DesignBridge.Text

namespace DesignBridge.Runes

/-- Drops the blanks at both ends. -/
def trim (r : Runes) : Runes :=
  ⟨Text.trimBy (Rune.isIn Text.isBlank) r.list⟩

/-- Cuts at every occurrence of `sep`. -/
def split (sep : Char) (r : Runes) : List Runes :=
  (Text.splitAt (.char sep) r.list).map Runes.mk

end DesignBridge.Runes
