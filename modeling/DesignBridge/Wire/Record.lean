import DesignBridge.Validation.Field

/-! # Records

A view of a typed value as named fields, from which both of its written forms come: the wire form,
with wire names and without the fields that hold nothing, and the plain form, with every field
under its plain name. Neither holds a number that is not finite; null stands in its place. Names
inside values are shown as strings in both. Where records of one kind stand inside one another too
often, there is no written form. A record that is not frozen takes new values for its fields as they
are.
-/

namespace DesignBridge

/-- Named texts as members of an object. -/
def Json.texts (entries : Entries Runes) : Json.Members :=
  entries.map fun (name, s) => (name, .text s)

/-- A typed value as fields, lists and plain values. -/
inductive View where
  | value (json : Json)
  /-- Named texts. -/
  | texts (table : Table Runes)
  | list (items : List View)
  | record (fields : List (FieldKey × View))
  /-- A record of a kind that can stand inside itself. -/
  | nested (fields : List (FieldKey × View))
  deriving Inhabited

namespace View

/-- A text that may be absent. -/
def text? (s : Option Runes) : View :=
  .value (Json.ofText? s)

/-- A view that may be absent. -/
def ofOption {α : Type} (view : α → View) : Option α → View
  | some a => view a
  | none => .value .null

/-- Whether a view holds nothing. -/
def isAbsent : View → Bool
  | .value .null => true
  | _ => false

mutual

/-- The wire form. Nulls inside plain values stay. -/
def wire : View → Json
  | .value json => json.dumped
  | .texts table => .object (Table.ofShown (Json.texts table.entries)).entries
  | .list items => .list (wireItems items)
  | .record fields | .nested fields => .object (wireFields fields)

def wireItems : List View → List Json
  | [] => []
  | v :: rest => wire v :: wireItems rest

/-- The wire form of the fields that hold something. -/
def wireFields : List (FieldKey × View) → Json.Members
  | [] => []
  | (key, v) :: rest =>
    if v.isAbsent then wireFields rest else (key.wire, wire v) :: wireFields rest

end

mutual

def plain : View → Json
  | .value json => json.dumped
  | .texts table => .object (Table.ofShown (Json.texts table.entries)).entries
  | .list items => .list (plainItems items)
  | .record fields | .nested fields => .object (plainFields fields)

def plainItems : List View → List Json
  | [] => []
  | v :: rest => plain v :: plainItems rest

def plainFields : List (FieldKey × View) → Json.Members
  | [] => []
  | (key, v) :: rest => (key.plain, plain v) :: plainFields rest

end

mutual

/-- How often records stand inside others of their kind, or lists and objects inside one another in
plain values. -/
def depth : View → Nat
  | .value json => json.depth
  | .texts _ => 0
  | .list items => depthItems items
  | .record fields => depthFields fields
  | .nested fields => depthFields fields + 1

def depthItems : List View → Nat
  | [] => 0
  | v :: rest => max (depth v) (depthItems rest)

def depthFields : List (FieldKey × View) → Nat
  | [] => 0
  | (_, v) :: rest => max (depth v) (depthFields rest)

end

/-- The least depth that is not written any more. -/
def depthLimit : Nat := 255

/-- What is said when the limit is reached. -/
def depthMessage : String := "Circular reference detected (depth exceeded)"

/-- The wire form, where there is one. -/
def wire? (v : View) : Option Json :=
  if v.depth < depthLimit then some v.wire else none

/-- The plain form, where there is one. -/
def plain? (v : View) : Option Json :=
  if v.depth < depthLimit then some v.plain else none

end View

/-- A named record: a view of fields, and whether they are fixed. -/
structure Record where
  kind : String
  frozen : Bool
  fields : List (FieldKey × View)

/-- Why a field cannot be set. -/
inductive AssignError where
  /-- The record is fixed. -/
  | frozen (field : Runes)
  /-- The record has no such field. -/
  | noField (kind : String) (field : Runes)
  /-- The name is one under which a record tells about itself. -/
  | noSetter (kind : String) (name : Runes)
  deriving DecidableEq, Repr

/-- The wording for a field that does not exist. -/
def AssignError.message : AssignError → Runes
  | frozen _ => Fault.frozen.message
  | noField kind field => "\"" ++ kind ++ "\" object has no field \"" ++ field ++ "\""
  | noSetter kind name => "property '" ++ name ++ "' of '" ++ kind ++ "' object has no setter"

namespace Record

def view (record : Record) : View :=
  .record record.fields

/-- Replaces the view of a field, if the record has it. -/
def setField (name : Runes) (view : View) :
    List (FieldKey × View) → Option (List (FieldKey × View))
  | [] => none
  | (key, old) :: rest =>
    if key.plain = name then some ((key, view) :: rest)
    else (setField name view rest).map ((key, old) :: ·)

/-- The names under which every record tells about itself. -/
def ownNames : List Runes := ["model_extra", "model_fields_set"]

/-- Whether a name is kept aside for notes, which no written form shows. -/
def isNote (name : Runes) : Bool :=
  name.list.head? == some (.char '_')

/-- Sets a field by its plain name. The value is not checked. A note is left out of the record. -/
def assign (record : Record) (name : Runes) (value : Json) : Except AssignError Record :=
  if isNote name then .ok record
  else if record.frozen then .error (.frozen name)
  else if ownNames.contains name then .error (.noSetter record.kind name)
  else match setField name (.value value) record.fields with
    | some fields => .ok { record with fields }
    | none => .error (.noField record.kind name)

/-- Sets fields one after the other, up to the first that cannot be set. -/
def assignAll (record : Record) : Json.Members → Except AssignError Record
  | [] => .ok record
  | (name, value) :: rest =>
    match record.assign name value with
    | .ok record => assignAll record rest
    | .error e => .error e

end Record

end DesignBridge
