import DesignBridge.Text.Hex
import DesignBridge.Web.Utf8

/-! # Percent-encoding

Characters outside a class are written as the bytes of their UTF-8 form, each as a percent sign
and two hexadecimal digits. Reading takes every such escape back; a percent sign that begins none
stands for itself.
-/

namespace DesignBridge.Percent

open Text

/-- Letters, digits and the four marks that never need an escape. -/
def isUnreserved (c : Char) : Bool :=
  c.isAlphanum || c == '-' || c == '.' || c == '_' || c == '~'

def escapeByte (b : UInt8) : List Char :=
  ['%', hexDigitUpper (b.toNat / 16), hexDigitUpper (b.toNat % 16)]

def escapeChar (c : Char) : List Char :=
  (String.utf8EncodeChar c).flatMap escapeByte

/-- Writes the characters outside a class as escapes. -/
def encode (safe : Char → Bool) (cs : List Char) : List Char :=
  cs.flatMap fun c => if safe c then [c] else escapeChar c

/-- The byte of two hexadecimal digits. -/
def byte? (high low : Char) : Option UInt8 := do
  let h ← hexValue? high
  let l ← hexValue? low
  return UInt8.ofNat (16 * h + l)

/-- The bytes of an ASCII text with escapes. -/
def bytes : List Char → List UInt8
  | [] => []
  | c :: rest =>
    if c = '%' then match rest with
      | high :: low :: after => match byte? high low with
        | some b => b :: bytes after
        | none => c.toUInt8 :: bytes (high :: low :: after)
      | short => c.toUInt8 :: bytes short
    else c.toUInt8 :: bytes rest

/-- Reads a text behind a run of ASCII characters, the last of which is given first. Every such
run is read for itself; other characters stand for themselves. -/
def decodeAfter : List Char → List Char → List Char
  | run, [] => Utf8.decode (bytes run.reverse)
  | run, c :: rest =>
    if c.toNat < 0x80 then decodeAfter (c :: run) rest
    else Utf8.decode (bytes run.reverse) ++ c :: decodeAfter [] rest

/-- Reads a text with escapes. -/
def decode (cs : List Char) : List Char :=
  decodeAfter [] cs

end DesignBridge.Percent
