import DesignBridge.Number.Basic
import DesignBridge.Text.Blank
import DesignBridge.Text.Digit
import DesignBridge.Text.Quoted

/-! # Numerals

Numbers as people write them in settings: blanks around them, an optional sign, decimal digits of
any script, and single underscores between digits. A real numeral also knows fractions, exponents
and the words for infinity and for what is not a number.
-/

namespace DesignBridge

/-- Why a text is not a numeral. -/
inductive NumeralError where
  /-- The text has another form. -/
  | malformedInt (s : String)
  /-- The text has another form. -/
  | malformedReal (s : String)
  /-- The integer has more digits than are read. -/
  | tooLong (digits : Nat)
  deriving DecidableEq, Repr

namespace Numeral

open Text

/-- The most digits that an integer numeral may have. -/
def maxDigits : Nat := 4300

/-- The wording for an integer numeral that is too long. -/
def tooLongMessage (digits : Nat) : String :=
  "Exceeds the limit (4300 digits) for integer string conversion: value has " ++
    Number.intText digits ++
    " digits; use sys.set_int_max_str_digits() to increase the limit"

end Numeral

def NumeralError.message : NumeralError → String
  | malformedInt s =>
    "invalid literal for int() with base 10: " ++ String.ofList ((Text.quoted s).toList.take 200)
  | malformedReal s => "could not convert string to float: " ++ Text.quoted s
  | tooLong digits => Numeral.tooLongMessage digits

namespace Numeral

open Text

/-- ASCII white space. -/
def isAsciiBlank (c : Char) : Bool :=
  c == ' ' || ('\t' ≤ c && c ≤ '\r')

/-- Writes blanks and digits of all scripts in ASCII. A character that has no ASCII form becomes
a question mark, and what follows it is dropped. -/
def toAscii : List Char → List Char
  | [] => []
  | c :: rest =>
    if c.toNat < 127 then c :: toAscii rest
    else if isBlank c then ' ' :: toAscii rest
    else match digitValue? c with
      | some d => Char.ofNat (48 + d) :: toAscii rest
      -- The question mark spoils the numeral whatever comes after it.
      | none => ['?']

/-- The characters of a numeral in ASCII, without the blanks around them. Text that is ASCII
already is left alone, so that its information separators are no blanks. -/
def normalize (s : String) : List Char :=
  let cs := s.toList
  trimBy isAsciiBlank (if cs.all fun c => c.toNat < 128 then cs else toAscii cs)

/-- Splits off a sign. -/
def takeSign : List Char → Bool × List Char
  | '-' :: rest => (true, rest)
  | '+' :: rest => (false, rest)
  | rest => (false, rest)

/-- Drops underscores, each of which must stand between two digits. -/
def dropUnderscores : Option Char → List Char → Option (List Char)
  | before, [] => if before = some '_' then none else some []
  | before, c :: rest =>
    if c = '_' then
      if before.any isAsciiDigit then dropUnderscores (some c) rest else none
    else if before = some '_' && !isAsciiDigit c then none
    else (dropUnderscores (some c) rest).map (c :: ·)

/-- Splits off digits with single underscores between them; the underscores are dropped. `none`
when an underscore stands elsewhere. -/
def takeGrouped (cs : List Char) : Option (List Char × List Char) :=
  let inGroup := fun c => isAsciiDigit c || c == '_'
  (dropUnderscores none (cs.takeWhile inGroup)).map fun ds => (ds, cs.dropWhile inGroup)

/-- Reads an integer. -/
def int? (s : String) : Except NumeralError Int :=
  let (negative, unsigned) := takeSign (normalize s)
  match takeGrouped unsigned with
  | none => .error (.malformedInt s)
  | some (ds, left) =>
    -- The length is judged first, even when what follows the digits is no numeral.
    if maxDigits < ds.length then .error (.tooLong ds.length)
    else if ds.isEmpty || !left.isEmpty then .error (.malformedInt s)
    else
      let n : Int := natOfDigits ds
      .ok (if negative then -n else n)

/-- The double nearest to `digits * 10^exponent`. Exponents beyond all doubles are settled by the
position of the first digit. -/
def realOfDigits (digits : List Char) (exponent : Int) : Float :=
  let significant := digits.dropWhile (· == '0')
  let lead := significant.length + exponent
  if significant.isEmpty || lead < -400 then 0
  else if 400 < lead then 1.0 / 0.0
  else if exponent < 0 then Float.ofScientific (natOfDigits significant) true (-exponent).toNat
  else Float.ofScientific (natOfDigits significant) false exponent.toNat

/-- Reads an exponent part, if one is there. -/
def exponentPart? : List Char → Option Int
  | [] => some 0
  | c :: rest =>
    if c = 'e' ∨ c = 'E' then
      let (negative, ds) := takeSign rest
      if ds.isEmpty || !ds.all isAsciiDigit then none
      else
        let n : Int := natOfDigits ds
        some (if negative then -n else n)
    else none

/-- The value of an unsigned real numeral in ASCII without underscores. -/
def unsignedReal? (cs : List Char) : Option Float :=
  let word := cs.map Char.toLower
  if word = "inf".toList ∨ word = "infinity".toList then some (1.0 / 0.0)
  else if word = "nan".toList then some (0.0 / 0.0)
  else
    let whole := cs.takeWhile isAsciiDigit
    let afterWhole := cs.dropWhile isAsciiDigit
    let (fraction, tail) := match afterWhole with
      | '.' :: rest => (rest.takeWhile isAsciiDigit, rest.dropWhile isAsciiDigit)
      | rest => ([], rest)
    if whole.isEmpty && fraction.isEmpty then none
    else (exponentPart? tail).map fun e =>
      realOfDigits (whole ++ fraction) (e - fraction.length)

/-- Reads a real number. -/
def real? (s : String) : Except NumeralError Float :=
  let value := (dropUnderscores none (normalize s)).bind fun cs =>
    let (negative, unsigned) := takeSign cs
    (unsignedReal? unsigned).map fun x => if negative then -x else x
  match value with
  | some x => .ok x
  | none => .error (.malformedReal s)

end Numeral

end DesignBridge
