import DesignBridge.Number.Basic
import DesignBridge.Table

/-! # JSON values

Values keep the order of object members, and integers stay apart from doubles. Texts and names may
hold halves of surrogate pairs, which JSON text in ASCII can tell but UTF-8 cannot. A reader gives
every object distinct member names; the functions here look at the first member of a name.
-/

namespace DesignBridge

/-- A JSON value. -/
inductive Json where
  | null
  | bool (b : Bool)
  | number (n : Number)
  | text (s : Runes)
  | list (items : List Json)
  | object (members : List (Runes × Json))
  deriving Inhabited

namespace Json

/-- The members of an object, in order. -/
abbrev Members := Entries Json

def int (n : Int) : Json := .number (.int n)

/-- A text, or null. -/
def ofText? : Option Runes → Json
  | some s => .text s
  | none => .null

/-- A string, or null. -/
def ofString? (s : Option String) : Json :=
  ofText? (s.map Runes.ofString)

/-- A list of strings. -/
def strings (list : List String) : Json :=
  .list (list.map fun s : String => .text s)

def get? (value : Json) (name : Runes) : Option Json :=
  match value with
  | .object members => members.lookup name
  | _ => none

/-- The name of the type of a value, in messages. -/
def typeName : Json → String
  | null => "NoneType"
  | bool _ => "bool"
  | number (.int _) => "int"
  | number (.real _) => "float"
  | text _ => "str"
  | list _ => "list"
  | object _ => "dict"

/-- The value of a boolean or a number as a number: false is zero and true is one. -/
def asNumber? : Json → Option Number
  | .bool b => some (.int (if b then 1 else 0))
  | .number n => some n
  | _ => none

/-- Whether a value counts as present: null, false, zero and everything empty do not. -/
def isTruthy : Json → Bool
  | .null => false
  | .bool b => b
  | .number n => !n.isZero
  | .text s => s ≠ ""
  | .list items => !items.isEmpty
  | .object members => !members.isEmpty

/-- Whether a number is not a number at all. -/
def isNaN : Json → Bool
  | .number (.real x) => x.isNaN
  | _ => false

mutual

/-- Equality of values inside a list or an object: numbers and booleans by value, objects without
regard to order. What is not a number equals itself here. -/
def sameItem : Json → Json → Bool
  | .null, y => match y with
    | .null => true
    | _ => false
  | .bool b, y => match y.asNumber? with
    | some n => Number.same (.int (if b then 1 else 0)) n
    | none => false
  | .number m, y => match y.asNumber? with
    | some n => Number.same m n || ((Json.number m).isNaN && (Json.number n).isNaN)
    | none => false
  | .text s, y => match y with
    | .text t => s == t
    | _ => false
  | .list xs, y => match y with
    | .list ys => sameItems xs ys
    | _ => false
  | .object xs, y => match y with
    | .object ys => xs.length == ys.length && sameMembers xs ys
    | _ => false

/-- Equality of lists, item by item. -/
def sameItems : List Json → List Json → Bool
  | [], [] => true
  | x :: xs, y :: ys => sameItem x y && sameItems xs ys
  | _, _ => false

/-- Whether every member of the first object is in the second with the same value. -/
def sameMembers : Members → Members → Bool
  | [], _ => true
  | (name, x) :: rest, ys =>
    (match ys.lookup name with
      | some y => sameItem x y
      | none => false) && sameMembers rest ys

end

/-- Equality of values, as `sameItem`, except that what is not a number differs from itself. -/
def same (x y : Json) : Bool :=
  sameItem x y && !x.isNaN

mutual

def allFinite : Json → Bool
  | .number (.real x) => x.isFinite
  | .list items => allFiniteItems items
  | .object members => allFiniteMembers members
  | _ => true

def allFiniteItems : List Json → Bool
  | [] => true
  | x :: xs => allFinite x && allFiniteItems xs

def allFiniteMembers : Members → Bool
  | [] => true
  | (_, x) :: rest => allFinite x && allFiniteMembers rest

end

mutual

/-- Whether no text and no name in a value holds half of a surrogate pair. -/
def isWhole : Json → Bool
  | .text s => s.isWhole
  | .list items => isWholeItems items
  | .object members => isWholeMembers members
  | _ => true

def isWholeItems : List Json → Bool
  | [] => true
  | x :: xs => isWhole x && isWholeItems xs

def isWholeMembers : Members → Bool
  | [] => true
  | (name, x) :: rest => name.isWhole && isWhole x && isWholeMembers rest

end

/-- Whether a value can be written as the body of a message, in UTF-8 and without words for
numbers. -/
def isEncodable (value : Json) : Bool :=
  value.allFinite && value.isWhole

mutual

/-- How many lists and objects stand inside one another. -/
def depth : Json → Nat
  | .list items => depthItems items + 1
  | .object members => depthMembers members + 1
  | _ => 0

def depthItems : List Json → Nat
  | [] => 0
  | x :: xs => max (depth x) (depthItems xs)

def depthMembers : Members → Nat
  | [] => 0
  | (_, x) :: rest => max (depth x) (depthMembers rest)

end

mutual

/-- A value as a record writes it: with null in place of every number that is not finite, and with
names that are strings. -/
def dumped : Json → Json
  | .number (.real x) => if x.isFinite then .number (.real x) else .null
  | .list items => .list (dumpedItems items)
  | .object members => .object (Table.ofShown (dumpedMembers members)).entries
  | value => value

def dumpedItems : List Json → List Json
  | [] => []
  | x :: xs => dumped x :: dumpedItems xs

def dumpedMembers : Members → Members
  | [] => []
  | (name, x) :: rest => (name, dumped x) :: dumpedMembers rest

end

end Json

end DesignBridge
