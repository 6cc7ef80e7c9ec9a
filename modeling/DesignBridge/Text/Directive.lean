import DesignBridge.Json.Writer
import DesignBridge.Number.Rounded
import DesignBridge.Text.Layout

/-! # Directives

The forms in which a directive writes its argument, each named by a letter, and what is said when
an argument does not fit its form. Half of a surrogate pair is shown by the replacement character.
-/

namespace DesignBridge.Text

/-- Why a text with directives cannot be filled in. -/
inductive DirectiveError where
  | tooFewArguments
  | tooManyArguments
  /-- A number is written, but the argument has another type. -/
  | numberExpected (form : Char) (type : String)
  /-- An integer is written, but the argument has another type. -/
  | integerExpected (form : Char) (type : String)
  /-- A double is written, but the argument has another type. -/
  | realExpected (type : String)
  /-- A character is written, but the argument is none, and no number of one either. -/
  | characterExpected
  /-- A width or limit is taken from the arguments, but the argument is no integer. -/
  | sizeExpected
  /-- A directive takes its argument by name, but arguments have no names. -/
  | namesExpected
  /-- No argument has the name. -/
  | unknownName (name : String)
  /-- The name of an argument does not end. -/
  | unclosedName
  | unknownForm (form : Char) (index : Nat)
  | incomplete
  /-- The width that is written in a directive is too large. -/
  | widthRange
  /-- The limit that is written in a directive is too large. -/
  | limitRange
  /-- The width that is taken from the arguments is too large. -/
  | takenWidthRange
  /-- The limit that is taken from the arguments is too large. -/
  | takenLimitRange
  /-- An integer cannot have so many digits. -/
  | digitRange
  /-- An infinite number is written as an integer. -/
  | infinite
  /-- What is not a number is written as an integer. -/
  | notANumber
  /-- An integer is too large for a double. -/
  | integerRange
  /-- No character has the number. -/
  | characterRange
  /-- The text would be too long. -/
  | tooLong
  deriving DecidableEq, Repr

namespace DirectiveError

/-- The character that a message shows for one that it complains about. -/
def shown (c : Char) : Char :=
  if 31 ≤ c.toNat ∧ c.toNat ≤ 126 then c else '?'

def message : DirectiveError → String
  | tooFewArguments => "not enough arguments for format string"
  | tooManyArguments => "not all arguments converted during string formatting"
  | numberExpected form type =>
    "%" ++ form.toString ++ " format: a real number is required, not " ++ type
  | integerExpected form type =>
    "%" ++ form.toString ++ " format: an integer is required, not " ++ type
  | realExpected type => "must be real number, not " ++ type
  | characterExpected => "%c requires int or char"
  | sizeExpected => "* wants int"
  | namesExpected => "format requires a mapping"
  | unknownName name => quoted name
  | unclosedName => "incomplete format key"
  | unknownForm form index =>
    "unsupported format character '" ++ (shown form).toString ++ "' (0x" ++
      String.ofList (Nat.toDigits 16 form.toNat) ++ ") at index " ++ Number.intText index
  | incomplete => "incomplete format"
  | widthRange => "width too big"
  | limitRange => "precision too big"
  | takenWidthRange => "Python int too large to convert to C ssize_t"
  | takenLimitRange => "Python int too large to convert to C int"
  | digitRange => "precision too large"
  | infinite => "cannot convert float infinity to integer"
  | notANumber => "cannot convert float NaN to integer"
  | integerRange => Number.exceedsDoublesMessage
  | characterRange => "%c arg not in range(0x110000)"
  | tooLong => ""

end DirectiveError

/-- How a directive writes its argument. -/
inductive Form where
  | text
  | literal
  /-- A literal whose characters outside ASCII are escaped. -/
  | asciiLiteral
  | character
  | integer
  /-- An integer in another base than ten. -/
  | based (base : Nat) (upper : Bool)
  | fixed (upper : Bool)
  | scientific (upper : Bool)
  | general (upper : Bool)
  deriving DecidableEq, Repr

namespace Form

/-- The form that a letter stands for. -/
def ofChar? : Char → Option Form
  | 's' => some text
  | 'r' => some literal
  | 'a' => some asciiLiteral
  | 'c' => some character
  | 'd' | 'i' | 'u' => some integer
  | 'o' => some (based 8 false)
  | 'x' => some (based 16 false)
  | 'X' => some (based 16 true)
  | 'f' => some (fixed false)
  | 'F' => some (fixed true)
  | 'e' => some (scientific false)
  | 'E' => some (scientific true)
  | 'g' => some (general false)
  | 'G' => some (general true)
  | _ => none

/-- The most digits that an integer can be given. -/
def maxDigits : Nat := 2147483644

/-- Text in upper case where it is asked for. -/
def cased (upper : Bool) (cs : List Char) : List Char :=
  if upper then cs.map Char.toUpper else cs

/-- An integer in a base, after its mark. -/
def writeInt (layout : Layout) (base : Nat) (mark : List Char) (upper : Bool) (n : Int) :
    Except DirectiveError Content :=
  let ds := Nat.toDigits base n.natAbs
  let least := layout.limit.getD 0
  if maxDigits < least then .error .digitRange
  else .ok (.number (n < 0) mark
    (cased upper (List.replicate (least - ds.length) '0' ++ ds)))

/-- An argument as an integer; the fraction of a double is dropped. -/
def integerOf (letter : Char) (argument : Json) : Except DirectiveError Int :=
  match argument.asNumber? with
  | some (.int n) => .ok n
  | some (.real x) => match Binary.ofFloat? x with
    | some b => .ok b.truncate
    | none => .error (if x.isNaN then .notANumber else .infinite)
  | none => .error (.numberExpected letter argument.typeName)

def realOf (argument : Json) : Except DirectiveError Float :=
  match argument.asNumber? with
  | some n => if n.exceedsDoubles then .error .integerRange else .ok n.toFloat
  | none => .error (.realExpected argument.typeName)

/-- A double, its size written by the function that is given. Without a limit six decimals are
written. -/
def writeReal (layout : Layout) (upper : Bool) (size : Bool → Nat → Nat → Int → List Char)
    (x : Float) : Content :=
  match Binary.ofFloat? x with
  | some b => .number b.negative []
    (cased upper (size layout.alternate (layout.limit.getD 6) b.mantissa b.exponent))
  | none => .number (x < 0) [] (cased upper (if x.isNaN then "nan" else "inf").toList)

/-- An argument as one character: a text of one, or its number. -/
def characterOf : Json → Except DirectiveError Char
  | .text s => match s.list with
    | [r] => .ok r.shown
    | _ => .error .characterExpected
  | argument => match argument.asNumber? with
    | some (.int n) =>
      if 0 ≤ n ∧ n < 0x110000 then .ok (Rune.ofNat n.toNat).shown else .error .characterRange
    | _ => .error .characterExpected

def inAscii (s : String) : List Char :=
  s.toList.flatMap fun c => if c.toNat < 128 then [c] else numericEscape c

/-- An argument in a form. The letter is the one that the form was named by. -/
def write (layout : Layout) (letter : Char) (argument : Json) :
    Form → Except DirectiveError Content
  | text => .ok (.text (argument.display.list.map Rune.shown))
  | literal => .ok (.text argument.literal.toList)
  | asciiLiteral => .ok (.text (inAscii argument.literal))
  | character => (.whole [·]) <$> characterOf argument
  | integer => do
    let n ← integerOf letter argument
    writeInt layout 10 [] false n
  | based base upper =>
    match argument.asNumber? with
    | some (.int n) =>
      writeInt layout base (if layout.alternate then ['0', letter] else []) upper n
    | _ => .error (.integerExpected letter argument.typeName)
  | fixed upper => (writeReal layout upper Decimal.fixed ·) <$> realOf argument
  | scientific upper => (writeReal layout upper Decimal.scientific ·) <$> realOf argument
  | general upper => (writeReal layout upper Decimal.general ·) <$> realOf argument

end Form

end DesignBridge.Text
