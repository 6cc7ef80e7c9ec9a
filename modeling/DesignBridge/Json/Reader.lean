import DesignBridge.Json.Basic
import DesignBridge.Number.Numeral

/-! # Reading JSON

A reader for JSON text that also takes the words `NaN`, `Infinity` and `-Infinity`. A fault is
reported at the place where reading cannot go on; the rest of the input stands for that position
until the whole text is known. Of two members with one name the later value stays, in the place of
the earlier. An escape may name half of a surrogate pair; it becomes a character with the escape of
the other half behind it, and stays half of a pair without. Values may stand inside one another as
deep as they like: how far a machine can follow is left out.
-/

namespace DesignBridge

/-- What is wrong at some position of a text. -/
inductive JsonFault where
  | value
  | memberName
  | colon
  | comma
  | extraData
  | unterminatedText
  | controlCharacter
  | escape
  | unicodeEscape
  | byteOrderMark
  deriving DecidableEq, Repr

def JsonFault.message : JsonFault → String
  | value => "Expecting value"
  | memberName => "Expecting property name enclosed in double quotes"
  | colon => "Expecting ':' delimiter"
  | comma => "Expecting ',' delimiter"
  | extraData => "Extra data"
  | unterminatedText => "Unterminated string starting at"
  | controlCharacter => "Invalid control character at"
  | escape => "Invalid \\escape"
  | unicodeEscape => "Invalid \\uXXXX escape"
  | byteOrderMark => "Unexpected UTF-8 BOM (decode using utf-8-sig)"

/-- Why a text is not JSON: a fault at a position, or an integer with too many digits. The offset
counts places from zero, line and column from one. -/
inductive JsonError where
  | fault (kind : JsonFault) (line column offset : Nat)
  | tooLong (digits : Nat)
  deriving DecidableEq, Repr

def JsonError.message : JsonError → String
  | fault kind line column offset =>
    kind.message ++ ": line " ++ Number.intText line ++ " column " ++ Number.intText column ++
      " (char " ++ Number.intText offset ++ ")"
  | tooLong digits => Numeral.tooLongMessage digits

namespace Json

open Text

namespace Reader

/-- Why reading stopped; a fault lies where `rest` begins. -/
inductive Stop (ρ : Type) where
  | fault (kind : JsonFault) (rest : List ρ)
  | tooLong (digits : Nat)

/-- What was read, and the input after it. -/
abbrev Step (ρ α : Type) := Except (Stop ρ) (α × List ρ)

/-- Whether a place is one of the four characters that may stand between the parts of a text. -/
def isGap (r : Rune) : Bool :=
  r == .char ' ' || r == .char '\t' || r == .char '\n' || r == .char '\r'

/-- Drops the gap at the front. -/
def skipGap (cs : List Rune) : List Rune :=
  cs.dropWhile isGap

/-- The value of four hexadecimal digits. -/
def hexUnit? (a b c d : Char) : Option Nat := do
  let a ← hexValue? a
  let b ← hexValue? b
  let c ← hexValue? c
  let d ← hexValue? d
  return ((a * 16 + b) * 16 + c) * 16 + d

/-- The character after a backslash, for the escapes of one letter. -/
def shortEscape? (c : Char) : Option Char :=
  match c with
  | '"' => some '"'
  | '\\' => some '\\'
  | '/' => some '/'
  | 'b' => some '\x08'
  | 'f' => some '\x0c'
  | 'n' => some '\n'
  | 'r' => some '\r'
  | 't' => some '\t'
  | _ => none

/-- Reads four hexadecimal digits; the input after them must not be empty, because the text has
still to be closed. -/
def readUnit (cs : List Rune) : Step Rune Nat :=
  match cs with
  | .char a :: .char b :: .char c :: .char d :: e :: rest =>
    match hexUnit? a b c d with
    | some unit => .ok (unit, e :: rest)
    | none => .error (.fault .unicodeEscape (.char 'u' :: cs))
  | _ => .error (.fault .unicodeEscape (.char 'u' :: cs))

/-- Reads the escape of a code unit from behind its `u`. The first half of a pair takes the second
half with it, when that follows as an escape with input behind it. -/
def readUnitEscape (cs : List Rune) : Step Rune Rune :=
  match readUnit cs with
  | .error stop => .error stop
  | .ok (unit, tail) =>
    if 0xD800 ≤ unit ∧ unit ≤ 0xDBFF then
      match tail with
      | .char '\\' :: .char 'u' :: more =>
        -- Too little input for a second half; what is wrong with it shows when it is read itself.
        if (more.drop 4).isEmpty then .ok (.ofNat unit, tail)
        else match readUnit more with
          | .error stop => .error stop
          | .ok (second, rest) =>
            if 0xDC00 ≤ second ∧ second ≤ 0xDFFF then
              .ok (.char (Char.ofNat (0x10000 + (unit - 0xD800) * 0x400 + (second - 0xDC00))), rest)
            else .ok (.ofNat unit, tail)
      | _ => .ok (.ofNat unit, tail)
    else .ok (.ofNat unit, tail)

/-- Reads one place of a text, or the closing quote as `none`. `opening` is the input from the
opening quote on. -/
def readRune (opening : List Rune) : List Rune → Step Rune (Option Rune)
  | [] => .error (.fault .unterminatedText opening)
  | .char '"' :: rest => .ok (none, rest)
  -- A backslash that ends the input leaves the text open; it is no escape yet.
  | [.char '\\'] => .error (.fault .unterminatedText opening)
  | .char '\\' :: .char 'u' :: rest => (readUnitEscape rest).map fun (r, left) => (some r, left)
  | .char '\\' :: .char c :: rest =>
    match shortEscape? c with
    | some e => .ok (some (.char e), rest)
    | none => .error (.fault .escape (.char '\\' :: .char c :: rest))
  | .char '\\' :: .half n :: rest => .error (.fault .escape (.char '\\' :: .half n :: rest))
  | .char c :: rest =>
    if c.val < 0x20 then .error (.fault .controlCharacter (.char c :: rest))
    else .ok (some (.char c), rest)
  | .half n :: rest => .ok (some (.half n), rest)

/-- Reads the places of a text up to its closing quote; `acc` holds what was read, in reverse, and
the first argument bounds how many follow. -/
def readText (opening : List Rune) : Nat → List Rune → List Rune → Step Rune (List Rune)
  | 0, _, _ => .error (.fault .unterminatedText opening)
  | fuel + 1, acc, cs =>
    match readRune opening cs with
    | .error stop => .error stop
    | .ok (some r, rest) => readText opening fuel (r :: acc) rest
    | .ok (none, rest) => .ok (acc.reverse, rest)

/-- Reads a text of at most so many places from behind its opening quote. -/
def readQuoted (most : Nat) (opening inside : List Rune) : Step Rune Runes :=
  (readText opening most [] inside).map fun (rs, rest) => (⟨rs⟩, rest)

/-- The whole part of a number: a lone zero, or digits that do not begin with one. -/
def takeWhole? : List Char → Option (List Char × List Char)
  | '0' :: rest => some (['0'], rest)
  | c :: rest =>
    if isAsciiDigit c then
      some (c :: rest.takeWhile isAsciiDigit, rest.dropWhile isAsciiDigit)
    else none
  | [] => none

/-- The fraction of a number, if a point with a digit behind it follows. -/
def takeFraction : List Char → Option (List Char) × List Char
  | '.' :: d :: rest =>
    if isAsciiDigit d then
      (some (d :: rest.takeWhile isAsciiDigit), rest.dropWhile isAsciiDigit)
    else (none, '.' :: d :: rest)
  | cs => (none, cs)

/-- The exponent of a number, if at least one digit stands in it. -/
def takeExponent (cs : List Char) : Option Int × List Char :=
  match cs with
  | c :: rest =>
    if c = 'e' ∨ c = 'E' then
      let (negative, unsigned) := Numeral.takeSign rest
      let ds := unsigned.takeWhile isAsciiDigit
      if ds.isEmpty then (none, cs)
      else
        let n : Int := natOfDigits ds
        (some (if negative then -n else n), unsigned.dropWhile isAsciiDigit)
    else (none, cs)
  | [] => (none, cs)

/-- Reads the longest number at the front: an integer when it has neither fraction nor exponent. -/
def readNumber (cs : List Char) : Step Char Json :=
  let (negative, unsigned) := match cs with
    | '-' :: rest => (true, rest)
    | rest => (false, rest)
  match takeWhole? unsigned with
  | none => .error (.fault .value cs)
  | some (whole, afterWhole) =>
    let (fraction, afterFraction) := takeFraction afterWhole
    let (exponent, rest) := takeExponent afterFraction
    if fraction.isNone && exponent.isNone then
      -- The limit is on integers only; a real numeral may be of any length.
      if Numeral.maxDigits < whole.length then .error (.tooLong whole.length)
      else
        let n : Int := natOfDigits whole
        .ok (.number (.int (if negative then -n else n)), rest)
    else
      let ds := fraction.getD []
      let x := Numeral.realOfDigits (whole ++ ds) (exponent.getD 0 - ds.length)
      .ok (.number (.real (if negative then -x else x)), rest)

/-- The words that stand for values. -/
def words : List (List Char × Json) :=
  [("null".toList, .null), ("true".toList, .bool true), ("false".toList, .bool false),
    ("NaN".toList, .number (.real (0.0 / 0.0))),
    ("Infinity".toList, .number (.real (1.0 / 0.0))),
    ("-Infinity".toList, .number (.real (-1.0 / 0.0)))]

/-- Reads a word or a number. -/
def readAtom (cs : List Char) : Step Char Json :=
  match words.find? fun (word, _) => word.isPrefixOf cs with
  | some (word, value) => .ok (value, cs.drop word.length)
  | none => readNumber cs

/-- What was read among the characters at the front of an input, seen in the whole of it. -/
def within {α : Type} (back : List Rune) : Step Char α → Step Rune α
  | .ok (a, rest) => .ok (a, rest.map .char ++ back)
  | .error (.fault kind rest) => .error (.fault kind (rest.map .char ++ back))
  | .error (.tooLong digits) => .error (.tooLong digits)

/-- Reads a word or a number at the front of an input. -/
def readBare (cs : List Rune) : Step Rune Json :=
  let (front, back) := Rune.leading cs
  within back (readAtom front)

mutual

/-- Reads a value. The first argument bounds the nesting of calls and the length of texts. -/
def readValue : Nat → List Rune → Step Rune Json
  | 0, cs => .error (.fault .value cs)
  | fuel + 1, cs =>
    match cs with
    | .char '"' :: rest => (readQuoted fuel cs rest).map fun (s, left) => (.text s, left)
    | .char '[' :: rest =>
      match skipGap rest with
      | .char ']' :: left => .ok (.list [], left)
      | inside => readItems fuel [] inside
    | .char '{' :: rest =>
      match skipGap rest with
      | .char '}' :: left => .ok (.object [], left)
      | inside => readMembers fuel [] inside
    | _ => readBare cs

/-- Reads the items of a list from the start of one; `acc` holds those before it, in reverse. -/
def readItems : Nat → List Json → List Rune → Step Rune Json
  | 0, _, cs => .error (.fault .value cs)
  | fuel + 1, acc, cs =>
    match readValue fuel cs with
    | .error stop => .error stop
    | .ok (item, rest) =>
      match skipGap rest with
      | .char ']' :: left => .ok (.list (item :: acc).reverse, left)
      | .char ',' :: left => readItems fuel (item :: acc) (skipGap left)
      | other => .error (.fault .comma other)

/-- Reads the members of an object from the start of one; `acc` holds those before it. -/
def readMembers : Nat → Members → List Rune → Step Rune Json
  | 0, _, cs => .error (.fault .value cs)
  | fuel + 1, acc, cs =>
    match cs with
    | .char '"' :: inside =>
      match readQuoted fuel cs inside with
      | .error stop => .error stop
      | .ok (name, rest) =>
        match skipGap rest with
        | .char ':' :: afterColon =>
          match readValue fuel (skipGap afterColon) with
          | .error stop => .error stop
          | .ok (value, afterValue) =>
            -- A name that was there before keeps its place and takes the later value.
            let acc := acc.put name value
            match skipGap afterValue with
            | .char '}' :: left => .ok (.object acc, left)
            | .char ',' :: left => readMembers fuel acc (skipGap left)
            | other => .error (.fault .comma other)
        | other => .error (.fault .colon other)
    | other => .error (.fault .memberName other)

end

/-- The error for a stop in the text `cs`. -/
def locate (cs : List Rune) : Stop Rune → JsonError
  | .tooLong digits => .tooLong digits
  | .fault kind rest =>
    let before := cs.take (cs.length - rest.length)
    .fault kind (before.count (.char '\n') + 1)
      ((before.reverse.takeWhile (· != .char '\n')).length + 1)
      before.length

end Reader

/-- Reads runes that hold one value. -/
def readRunes? (cs : List Rune) : Except JsonError Json :=
  -- At most two calls nest for each place: for a value, and for what it stands in.
  match Reader.readValue (2 * cs.length + 2) (Reader.skipGap cs) with
  | .error stop => .error (Reader.locate cs stop)
  | .ok (value, rest) =>
    match Reader.skipGap rest with
    | [] => .ok value
    | extra => .error (Reader.locate cs (.fault .extraData extra))

def read? (s : String) : Except JsonError Json :=
  let cs := s.toList
  if cs.head? = some '\ufeff' then .error (.fault .byteOrderMark 1 1 0)
  else readRunes? (cs.map .char)

end Json

end DesignBridge
