import DesignBridge.Text.Case
import DesignBridge.Validation.Checked

/-! # Fields of records

Readers for the fields of a record that is given as a JSON object. A field has a wire name and may
also be given under a second name; the wire name wins, even if its value is null. Issues name the
key that was read, and the wire name when the field is absent. Keys that no field has are ignored.
-/

namespace DesignBridge

/-- The names under which a field may be given. -/
structure FieldKey where
  wire : Runes
  plain : Runes
  deriving DecidableEq, Repr

def FieldKey.same (name : Runes) : FieldKey := ⟨name, name⟩

instance : Coe Runes FieldKey := ⟨FieldKey.same⟩

namespace FieldKey

/-- The key and value that an object gives for a field. -/
def find? (key : FieldKey) (members : Json.Members) : Option (Runes × Json) :=
  match members.lookup key.wire with
  | some value => some (key.wire, value)
  | none => (members.lookup key.plain).map fun value => (key.plain, value)

end FieldKey

namespace Validation

variable {α : Type}

/-- A field that must be there. -/
def requiredField (members : Json.Members) (key : FieldKey) (read : Json → Checked α) : Checked α :=
  match key.find? members with
  | some (name, value) => (read value).under (.key name)
  | none => (Checked.fail .missing).under (.key key.wire)

/-- A field with a value for when it is absent. -/
def fieldOr (members : Json.Members) (key : FieldKey) (fallback : α)
    (read : Json → Checked α) : Checked α :=
  match key.find? members with
  | some (name, value) => (read value).under (.key name)
  | none => .accepted fallback

/-- A reader that takes null as no value. -/
def nullable (read : Json → Checked α) : Json → Checked (Option α)
  | .null => .accepted none
  | value => some <$> read value

/-- A field that may be absent or null. -/
def optionalField (members : Json.Members) (key : FieldKey) (read : Json → Checked α) :
    Checked (Option α) :=
  fieldOr members key none (nullable read)

def readText : Json → Checked Runes
  | .text s => .accepted s
  | _ => .fail .textExpected

def readAny (value : Json) : Checked Json :=
  .accepted value

/-- Looks into a text, which must have no halves then. -/
def readString (s : Runes) (read : String → Checked α) : Checked α :=
  match s.toString? with
  | some s => read s
  | none => .fail .textUnreadable

@[simp] theorem readString_ofString (s : String) (read : String → Checked α) :
    readString s read = read s := by
  simp [readString]

/-- Accepts one of the words in a list of choices, as the value it stands for. -/
def readChoice (choices : List (String × α)) : Json → Checked α
  | .text s => readString s fun s => match choices.lookup s with
    | some value => .accepted value
    | none => .fail (.choiceExpected (choices.map Prod.fst))
  | _ => .fail (.choiceExpected (choices.map Prod.fst))

/-- Reads the items of a list, the first of which has the given index. -/
def readItemsFrom (read : Json → Checked α) : Nat → List Json → Checked (List α)
  | _, [] => .accepted []
  | n, x :: xs => List.cons <$> (read x).under (.index n) <*> readItemsFrom read (n + 1) xs

def readList (read : Json → Checked α) : Json → Checked (List α)
  | .list items => readItemsFrom read 0 items
  | _ => .fail .listExpected

def readTexts : Json.Members → Checked (Entries Runes)
  | [] => .accepted []
  | (name, value) :: rest =>
    (fun s entries => (name, s) :: entries) <$> (readText value).under (.key name) <*>
      readTexts rest

/-- Accepts an object whose values are texts. -/
def readTextTable : Json → Checked (Table Runes)
  | .object members => Table.ofList <$> readTexts members
  | _ => .fail .tableExpected

/-- Accepts an object, whose fields another reader takes up; `kind` names the record. -/
def readRecord (kind : String) (read : Json.Members → Checked α) : Json → Checked α
  | .object members => read members
  | _ => .fail (.recordExpected kind)

/-- The words that stand for booleans, in lower case. -/
def booleanWords : List (String × Bool) :=
  [("0", false), ("off", false), ("f", false), ("false", false), ("n", false), ("no", false),
    ("1", true), ("on", true), ("t", true), ("true", true), ("y", true), ("yes", true)]

/-- The first integer beyond those of 64 bits. -/
def wordLimit : Int := 9223372036854775808

def booleanOfInt (n : Int) : Checked Bool :=
  if n = 0 then .accepted false
  else if n = 1 then .accepted true
  else if -wordLimit ≤ n ∧ n < wordLimit then .fail .booleanUnclear
  else .fail .booleanExpected

/-- Accepts a boolean, zero or one, or a word that stands for a boolean. Numbers that are no
integers of 64 bits are no candidates at all. -/
def readBoolean : Json → Checked Bool
  | .bool b => .accepted b
  | .number (.int n) => booleanOfInt n
  | .number (.real x) =>
    match Binary.ofFloat? x with
    | some b =>
      -- Both ends are open: the least word is no candidate when it is given as a double.
      if b.isIntegral && -wordLimit < b.truncate && b.truncate < wordLimit then
        booleanOfInt b.truncate
      else .fail .booleanExpected
    | none => .fail .booleanExpected
  | .text s => readString s fun s => match booleanWords.lookup (Text.lowerAscii s) with
    | some b => .accepted b
    | none => .fail .booleanUnclear
  | _ => .fail .booleanExpected

end Validation

end DesignBridge
