import DesignBridge.Text.Hex
import DesignBridge.Text.Printable
import DesignBridge.Text.Rune

/-! # Quoted text

A text in quotes, on one line, with every character visible. Single quotes are used unless the
text holds a single quote and no double quote. A backslash, the quote in use and the characters
that do not print are escaped.
-/

namespace DesignBridge.Text

/-- A number as an escape of two, four or eight hexadecimal digits. -/
def numberEscape (n : Nat) : List Char :=
  if n ≤ 0xFF then '\\' :: 'x' :: hexPadded 2 n
  else if n ≤ 0xFFFF then '\\' :: 'u' :: hexPadded 4 n
  else '\\' :: 'U' :: hexPadded 8 n

/-- A character by its number. -/
def numericEscape (c : Char) : List Char :=
  numberEscape c.toNat

/-- One character between quotes of the given kind. -/
def quotedChar (quote c : Char) : List Char :=
  if c = quote ∨ c = '\\' then ['\\', c]
  else if c = '\n' then ['\\', 'n']
  else if c = '\r' then ['\\', 'r']
  else if c = '\t' then ['\\', 't']
  else if isPrintable c then [c]
  else numericEscape c

/-- One place of a text between quotes. -/
def quotedRune (quote : Char) : Rune → List Char
  | .char c => quotedChar quote c
  | .half n => numberEscape (Rune.half n).toNat

/-- The quote that spares escapes: a double one exactly when only single ones occur. -/
def quoteFor (rs : List Rune) : Char :=
  if .char '\'' ∈ rs ∧ .char '"' ∉ rs then '"' else '\''

def quoted (r : Runes) : String :=
  let quote := quoteFor r.list
  String.ofList (quote :: r.list.flatMap (quotedRune quote) ++ [quote])

end DesignBridge.Text
