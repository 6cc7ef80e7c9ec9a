import DesignBridge.Json.Basic
import DesignBridge.Text.Blank
import DesignBridge.Text.Quoted
import DesignBridge.Web.Utf8

/-! # Writing JSON

Three ways to write a value. `write` gives JSON text in ASCII, with a blank after each comma and
colon. `compact` gives it without blanks and with characters as they are, for the body of a message;
that has to be UTF-8, so halves of surrogate pairs are at fault there, and so are words for numbers.
`display` and `literal` give the text of a value in messages: quoted text where it stands inside
another value, and words for null and the booleans.
-/

namespace DesignBridge.Json

open Text

/-- A code unit of sixteen bits as an escape. -/
def unitEscape (n : Nat) : List Char :=
  '\\' :: 'u' :: hexPadded 4 n

/-- One character of a JSON text. Characters outside the basic plane become a pair of units. -/
def escapeChar (c : Char) : List Char :=
  match c with
  | '"' => ['\\', '"']
  | '\\' => ['\\', '\\']
  | '\n' => ['\\', 'n']
  | '\r' => ['\\', 'r']
  | '\t' => ['\\', 't']
  | '\x08' => ['\\', 'b']
  | '\x0c' => ['\\', 'f']
  | _ =>
    let n := c.toNat
    if 0x20 ≤ n ∧ n < 0x7F then [c]
    else if n < 0x10000 then unitEscape n
    else unitEscape (0xD800 + (n - 0x10000) / 0x400) ++ unitEscape (0xDC00 + (n - 0x10000) % 0x400)

/-- One place of a text in ASCII. -/
def escapeRune : Rune → List Char
  | .char c => escapeChar c
  | .half n => unitEscape (Rune.half n).toNat

/-- A text in double quotes, in ASCII. -/
def writeText (s : Runes) : String :=
  String.ofList ('"' :: s.list.flatMap escapeRune ++ ['"'])

/-- A number; what is not finite is written as a word. -/
def writeNumber : Number → String
  | .int n => Number.intText n
  | .real x =>
    if x.isNaN then "NaN"
    else if x.isInf then (if x < 0 then "-Infinity" else "Infinity")
    else Number.realText x

mutual

def write : Json → String
  | .null => "null"
  | .bool b => if b then "true" else "false"
  | .number n => writeNumber n
  | .text s => writeText s
  | .list items => "[" ++ joinWith ", " (writeItems items) ++ "]"
  | .object members => "\x7b" ++ joinWith ", " (writeMembers members) ++ "\x7d"

def writeItems : List Json → List String
  | [] => []
  | x :: xs => write x :: writeItems xs

def writeMembers : Members → List String
  | [] => []
  | (name, x) :: rest => (writeText name ++ ": " ++ write x) :: writeMembers rest

end

/-- One place of a text where characters outside ASCII stand for themselves. -/
def compactRune : Rune → List Rune
  | .char c => if c.toNat < 0x20 ∨ c = '"' ∨ c = '\\' then (escapeChar c).map .char else [.char c]
  | .half n => [.half n]

def compactText (s : Runes) : Runes :=
  "\"" ++ ⟨s.list.flatMap compactRune⟩ ++ "\""

mutual

def compact : Json → Runes
  | .text s => compactText s
  | .list items => "[" ++ Runes.join "," (compactItems items) ++ "]"
  | .object members => "\x7b" ++ Runes.join "," (compactMembers members) ++ "\x7d"
  | value => value.write

def compactItems : List Json → List Runes
  | [] => []
  | x :: xs => compact x :: compactItems xs

def compactMembers : Members → List Runes
  | [] => []
  | (name, x) :: rest => (compactText name ++ ":" ++ compact x) :: compactMembers rest

end

/-- Why a value cannot be the body of a message. -/
inductive EncodingFault where
  | notFinite
  | halves (fault : Utf8.EncodeFault)
  deriving DecidableEq, Repr

def EncodingFault.message : EncodingFault → String
  | notFinite => "Out of range float values are not JSON compliant"
  | halves fault => fault.message

/-- What is wrong with a value as the body of a message. Numbers are looked at while it is written,
halves once it is. -/
def encodingFault? (value : Json) : Option EncodingFault :=
  if value.allFinite then (Utf8.encodeFault? value.compact).map .halves else some .notFinite

mutual

/-- A value as it stands inside another in a message. -/
def literal : Json → String
  | .null => "None"
  | .bool b => if b then "True" else "False"
  | .number n => n.text
  | .text s => quoted s
  | .list items => "[" ++ joinWith ", " (literalItems items) ++ "]"
  | .object members => "\x7b" ++ joinWith ", " (literalMembers members) ++ "\x7d"

def literalItems : List Json → List String
  | [] => []
  | x :: xs => literal x :: literalItems xs

def literalMembers : Members → List String
  | [] => []
  | (name, x) :: rest => (quoted name ++ ": " ++ literal x) :: literalMembers rest

end

/-- A value on its own in a message: a text stands for itself. -/
def display : Json → Runes
  | .text s => s
  | x => literal x

end DesignBridge.Json
