import DesignBridge.Text.Digit
import DesignBridge.Text.Directive

/-! # Reading directives

A directive begins with a percent sign and ends with the letter of its form. Between the two may
stand, in this order: the name of an argument in parentheses, flags, a width, a point and a limit,
and a letter for a size that means nothing. A star in place of a width or a limit takes it from the
arguments. Two percent signs stand for one.

The reader goes through a text one character at a time. What it finds is a list of steps, which
says nothing yet about arguments.
-/

namespace DesignBridge.Text

/-- One thing that a text with directives asks for. -/
inductive Step where
  /-- A character that stands for itself. -/
  | char (c : Char)
  /-- The argument of the directive has a name; none when the name does not end. -/
  | named (name : Option String)
  | flag (c : Char)
  | width (n : Nat)
  | takeWidth
  | limit (n : Nat)
  | takeLimit
  /-- Writes an argument in the form of a letter, which stands at an index of the text. -/
  | write (letter : Char) (index : Nat)
  /-- The directive is faulty. -/
  | fault (e : DirectiveError)
  deriving DecidableEq, Repr

/-- Where in a directive the reader is. -/
inductive Place where
  /-- Outside of any directive. -/
  | outside
  /-- After the percent sign. -/
  | opened
  /-- In a name, so many parentheses deep; its characters stand in reverse. -/
  | name (depth : Nat) (read : List Char)
  | flags
  | width (n : Nat)
  /-- After a width. -/
  | sized
  /-- After the point. -/
  | point
  | limit (n : Nat)
  /-- After a limit. -/
  | limited
  /-- Before the letter. -/
  | last
  deriving DecidableEq, Repr

namespace Step

def maxWidth : Nat := 0x7FFFFFFFFFFFFFFF

def maxLimit : Nat := 0x7FFFFFFF

def isFlag (c : Char) : Bool :=
  c == '-' || c == '0' || c == '+' || c == ' ' || c == '#'

/-- The steps for a character that ends a directive, or stands before the letter that does. -/
def atEnd (index : Nat) (c : Char) : Place × List Step :=
  if c = 'h' ∨ c = 'l' ∨ c = 'L' then (.last, []) else (.outside, [.write c index])

def afterWidth (index : Nat) (c : Char) : Place × List Step :=
  if c = '.' then (.point, []) else atEnd index c

/-- One more digit of a size, which must stay in range. -/
def moreDigits (most : Nat) (fault : DirectiveError) (n : Nat) (c : Char)
    (place : Nat → Place) : Place × List Step :=
  let n := 10 * n + asciiDigitValue c
  if n ≤ most then (place n, []) else (.outside, [.fault fault])

/-- The steps for a character behind a name, or behind the percent sign if there is none. -/
def afterName (index : Nat) (c : Char) : Place × List Step :=
  if isFlag c then (.flags, [.flag c])
  else if c = '*' then (.sized, [.takeWidth])
  else if isAsciiDigit c then (.width (asciiDigitValue c), [])
  else afterWidth index c

/-- The steps for one character, and where they lead. -/
def next (index : Nat) (c : Char) : Place → Place × List Step
  | .outside => if c = '%' then (.opened, []) else (.outside, [.char c])
  | .opened =>
    if c = '%' then (.outside, [.char c])
    else if c = '(' then (.name 0 [], [])
    else afterName index c
  | .name depth read =>
    if c = '(' then (.name (depth + 1) (c :: read), [])
    else if c = ')' then match depth with
      | 0 => (.flags, [.named (some (String.ofList read.reverse))])
      | depth + 1 => (.name depth (c :: read), [])
    else (.name depth (c :: read), [])
  | .flags => afterName index c
  | .width n =>
    if isAsciiDigit c then moreDigits maxWidth .widthRange n c .width
    else
      let (place, steps) := afterWidth index c
      (place, .width n :: steps)
  | .sized => afterWidth index c
  | .point =>
    if c = '*' then (.limited, [.takeLimit])
    else if isAsciiDigit c then (.limit (asciiDigitValue c), [])
    else
      let (place, steps) := atEnd index c
      (place, .limit 0 :: steps)
  | .limit n =>
    if isAsciiDigit c then moreDigits maxLimit .limitRange n c .limit
    else
      let (place, steps) := atEnd index c
      (place, .limit n :: steps)
  | .limited => atEnd index c
  | .last => (.outside, [.write c index])

/-- The steps at the end of a text. -/
def finish : Place → List Step
  | .outside => []
  | .name _ _ => [.named none]
  | _ => [.fault .incomplete]

/-- The steps of a text whose first character has an index. -/
def readFrom (place : Place) (index : Nat) : List Char → List Step
  | [] => finish place
  | c :: rest =>
    let (place, steps) := next index c place
    steps ++ readFrom place (index + 1) rest

def ofText (s : String) : List Step :=
  readFrom .outside 0 s.toList

end Step

end DesignBridge.Text
