import DesignBridge.Json.Reader
import DesignBridge.Web.Utf8

/-! # Encoded JSON

The bytes of a message body as JSON. A mark at the front tells the encoding. Without one, a JSON
text begins with characters of ASCII, so the zeros among its first bytes tell how many bytes a
character takes, and which of them comes first; without zeros there the encoding is UTF-8. In all
encodings, half of a surrogate pair can stand alone.
-/

namespace DesignBridge.Json

/-- How characters are written in bytes. -/
inductive Encoding where
  | utf8
  | utf16 (bigEndian : Bool)
  | utf32 (bigEndian : Bool)
  deriving DecidableEq, Repr

namespace Encoding

/-- The encodings that begin with a mark, and their marks. That of UTF-16 begins one of UTF-32,
which therefore comes first. -/
def marks : List (List UInt8 × Encoding) :=
  [([0x00, 0x00, 0xFE, 0xFF], utf32 true), ([0xFF, 0xFE, 0x00, 0x00], utf32 false),
    ([0xFE, 0xFF], utf16 true), ([0xFF, 0xFE], utf16 false), ([0xEF, 0xBB, 0xBF], utf8)]

/-- The encoding of a JSON text without a mark, given by its first bytes. -/
def ofZeros : List UInt8 → Encoding
  | a :: b :: c :: d :: _ =>
    if a = 0 then (if b = 0 then utf32 true else utf16 true)
    else if b = 0 then (if c = 0 ∧ d = 0 then utf32 false else utf16 false)
    else utf8
  | [a, b] => if a = 0 then utf16 true else if b = 0 then utf16 false else utf8
  | _ => utf8

/-- The encoding of a JSON text, and its bytes behind the mark. -/
def detect (bytes : List UInt8) : Encoding × List UInt8 :=
  match marks.find? fun (mark, _) => mark.isPrefixOf bytes with
  | some (mark, encoding) => (encoding, bytes.drop mark.length)
  | none => (ofZeros bytes, bytes)

/-- The units of two bytes; none when a byte is left over. -/
def units16? (bigEndian : Bool) : List UInt8 → Option (List Nat)
  | [] => some []
  | [_] => none
  | a :: b :: rest =>
    let unit := if bigEndian then a.toNat * 0x100 + b.toNat else b.toNat * 0x100 + a.toNat
    (units16? bigEndian rest).map (unit :: ·)

/-- The units of four bytes, from units of two. -/
def units32? (bigEndian : Bool) : List Nat → Option (List Nat)
  | [] => some []
  | [_] => none
  | a :: b :: rest =>
    let unit := if bigEndian then a * 0x10000 + b else b * 0x10000 + a
    (units32? bigEndian rest).map (unit :: ·)

def decode? (bytes : List UInt8) : Encoding → Option (List Rune)
  | utf8 => Utf8.decodeRunes? bytes
  | utf16 bigEndian => (units16? bigEndian bytes).map fun units => Rune.joined (units.map .ofNat)
  | utf32 bigEndian =>
    match (units16? bigEndian bytes).bind (units32? bigEndian) with
    | some units => if units.all (· < 0x110000) then some (units.map .ofNat) else none
    | none => none

end Encoding

/-- Why a body is not JSON. -/
inductive BodyError where
  /-- Its bytes stand for no text. -/
  | encoding
  | json (e : JsonError)
  deriving DecidableEq, Repr

/-- The text of a body. -/
def bodyText? (bytes : List UInt8) : Option (List Rune) :=
  let (encoding, bytes) := Encoding.detect bytes
  encoding.decode? bytes

/-- Reads the body of a message. -/
def readBody? (bytes : List UInt8) : Except BodyError Json :=
  match bodyText? bytes with
  | some rs => (readRunes? rs).mapError .json
  | none => .error .encoding

end DesignBridge.Json
