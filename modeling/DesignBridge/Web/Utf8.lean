import DesignBridge.Number.Basic
import DesignBridge.Text.Hex
import DesignBridge.Text.Rune

/-! # UTF-8

Reading bytes as UTF-8 when they need not be. They come apart into pieces: characters, and what
stands for none, which is a byte that cannot begin a character or the longest beginning of one that
is not carried on. What is made of such a piece depends on the reader: one puts the replacement
character in its place, one gives up, and one takes the bytes that halves of surrogate pairs would
have for these halves. In writing it is the halves that have no bytes.
-/

namespace DesignBridge.Utf8

/-- What stands for bytes that are not UTF-8. -/
def replacement : Char := Char.ofNat 0xFFFD

/-- The bytes of a text. -/
def encode (cs : List Char) : List UInt8 :=
  cs.flatMap String.utf8EncodeChar

/-- Whether a byte can be one that carries on a character. -/
def continues (b : Nat) : Bool :=
  0x80 ≤ b && b ≤ 0xBF

/-- Whether two bytes can begin a character of two to four bytes. Longer forms than needed, halves
of pairs and numbers beyond the last character are ruled out here. -/
def begins (a b : Nat) : Bool :=
  if 0xC2 ≤ a ∧ a ≤ 0xDF then continues b
  else if a = 0xE0 then 0xA0 ≤ b && b ≤ 0xBF
  else if a = 0xED then 0x80 ≤ b && b ≤ 0x9F
  else if 0xE1 ≤ a ∧ a ≤ 0xEF then continues b
  else if a = 0xF0 then 0x90 ≤ b && b ≤ 0xBF
  else if 0xF1 ≤ a ∧ a ≤ 0xF3 then continues b
  else a == 0xF4 && 0x80 ≤ b && b ≤ 0x8F

/-- What some bytes stand for. -/
inductive Piece where
  | char (c : Char)
  /-- Nothing; `cut` tells that the input ends where a character would have to be carried on. -/
  | broken (bytes : List Nat) (cut : Bool)
  deriving DecidableEq, Repr

/-- Takes bytes, given as numbers, apart. -/
def pieces : List Nat → List Piece
  | [] => []
  | a :: rest =>
    if a < 0x80 then .char (Char.ofNat a) :: pieces rest
    else match rest with
      | [] => [.broken [a] true]
      | b :: rest =>
        if !begins a b then .broken [a] false :: pieces (b :: rest)
        else if a < 0xE0 then .char (Char.ofNat (a % 0x20 * 0x40 + b % 0x40)) :: pieces rest
        else match rest with
          | [] => [.broken [a, b] true]
          | c :: rest =>
            if !continues c then .broken [a, b] false :: pieces (c :: rest)
            else if a < 0xF0 then
              .char (Char.ofNat ((a % 0x10 * 0x40 + b % 0x40) * 0x40 + c % 0x40)) :: pieces rest
            else match rest with
              | [] => [.broken [a, b, c] true]
              | d :: rest =>
                if !continues d then .broken [a, b, c] false :: pieces (d :: rest)
                else
                  .char (Char.ofNat
                    (((a % 0x08 * 0x40 + b % 0x40) * 0x40 + c % 0x40) * 0x40 + d % 0x40)) ::
                    pieces rest

namespace Piece

/-- The character that shows a piece. -/
def shown : Piece → Char
  | char c => c
  | broken _ _ => replacement

end Piece

/-- Reads bytes, with the replacement character for every piece that stands for none. -/
def decode (bytes : List UInt8) : List Char :=
  (pieces (bytes.map UInt8.toNat)).map Piece.shown

/-- The runes of some pieces, if all of them stand for some. Half of a pair would take three bytes,
none of which stands for anything on its own. -/
def runes? : List Piece → Option (List Rune)
  | [] => some []
  | .char c :: rest => (runes? rest).map (.char c :: ·)
  | .broken [0xED] _ :: .broken [b] _ :: .broken [c] _ :: rest =>
    if 0xA0 ≤ b ∧ b ≤ 0xBF ∧ continues c then
      (runes? rest).map (Rune.ofNat (0xD000 + b % 0x40 * 0x40 + c % 0x40) :: ·)
    else none
  | .broken _ _ :: _ => none

/-- Reads bytes, with halves of surrogate pairs. -/
def decodeRunes? (bytes : List UInt8) : Option (List Rune) :=
  runes? (pieces (bytes.map UInt8.toNat))

/-- Bytes at a place that stand for no character. -/
structure DecodeFault where
  position : Nat
  bytes : List Nat
  cut : Bool
  deriving DecidableEq, Repr

/-- The wording for bytes that stand for no character. -/
def DecodeFault.message (fault : DecodeFault) : String :=
  let place := match fault.bytes with
    | [b] => "byte 0x" ++ String.ofList (Text.hexPadded 2 b) ++ " in position " ++
        Number.intText fault.position
    | bytes => "bytes in position " ++ Number.intText fault.position ++ "-" ++
        Number.intText (fault.position + bytes.length - 1)
  let reason :=
    if !fault.bytes.head?.any fun a => 0xC2 ≤ a && a ≤ 0xF4 then "invalid start byte"
    else if fault.cut then "unexpected end of data"
    else "invalid continuation byte"
  "'utf-8' codec can't decode " ++ place ++ ": " ++ reason

/-- The first fault of some pieces that begin at a place. -/
def fault? : Nat → List Piece → Option DecodeFault
  | _, [] => none
  | position, .broken bytes cut :: _ => some ⟨position, bytes, cut⟩
  | position, .char c :: rest => fault? (position + c.utf8Size) rest

/-- Reads bytes that have to be those of a text. -/
def decodeStrict (bytes : List UInt8) : Except DecodeFault String :=
  match fault? 0 (pieces (bytes.map UInt8.toNat)) with
  | some fault => .error fault
  | none => .ok (String.ofList (decode bytes))

/-- Halves of surrogate pairs, side by side in a text that is to be written: the first of them, its
place, and how many there are. -/
structure EncodeFault where
  first : Fin 0x800
  position : Nat
  count : Nat
  deriving DecidableEq, Repr

/-- The wording for halves in a text that is to be written. -/
def EncodeFault.message (fault : EncodeFault) : String :=
  let place :=
    if fault.count = 1 then
      "character '\\u" ++ String.ofList (Text.hexPadded 4 (Rune.half fault.first).toNat) ++
        "' in position " ++ Number.intText fault.position
    else
      "characters in position " ++ Number.intText fault.position ++ "-" ++
        Number.intText (fault.position + fault.count - 1)
  "'utf-8' codec can't encode " ++ place ++ ": surrogates not allowed"

/-- The halves that stand first in a text, if there are any. -/
def encodeFault? (r : Runes) : Option EncodeFault :=
  match Rune.leading r.list with
  | (front, .half n :: back) =>
    some ⟨n, front.length, (back.takeWhile (!·.isChar)).length + 1⟩
  | _ => none

end DesignBridge.Utf8
