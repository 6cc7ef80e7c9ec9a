import DesignBridge.Json.Writer

/-! # Issues of validation

An issue says what is wrong with one part of a value, and where in the value that part is.
-/

namespace DesignBridge

/-- One step from a value to a part of it. -/
inductive PathPart where
  | key (name : Runes)
  | index (n : Nat)
  /-- The value read as one kind of several; this is no step into the value. -/
  | kind (name : String)
  deriving DecidableEq, Repr

def PathPart.text : PathPart → String
  | key name => name.lossy
  | index n => Number.intText n
  | kind name => name

/-- What is wrong with a value. -/
inductive Fault where
  /-- A required field is absent. -/
  | missing
  | textExpected
  /-- The text is to be looked into, but has halves of surrogate pairs. -/
  | textUnreadable
  /-- The text is empty. -/
  | textTooShort
  | listExpected
  | tableExpected
  /-- A record of the named kind is expected. -/
  | recordExpected (kind : String)
  /-- A record is expected; its kind is not fixed, or the value came as a message body. -/
  | fieldsExpected
  /-- One of some words is expected. -/
  | choiceExpected (choices : List String)
  /-- A check of the value failed. -/
  | refused (reason : String)
  | booleanExpected
  /-- The text or number is none of those that stand for a boolean. -/
  | booleanUnclear
  /-- The field that tells the kinds apart is absent. -/
  | tagMissing (field : String)
  /-- The field that tells the kinds apart holds something else. -/
  | tagUnknown (tag field : String) (expected : List String)
  /-- Too many records of one kind stand inside one another. -/
  | tooDeep
  /-- The record cannot be changed. -/
  | frozen
  /-- The body is not JSON, for a reason. -/
  | notJson (reason : String)
  deriving DecidableEq, Repr

namespace Fault

/-- The name of the kind of fault. -/
def code : Fault → String
  | missing => "missing"
  | textExpected => "string_type"
  | textUnreadable => "string_unicode"
  | textTooShort => "string_too_short"
  | listExpected => "list_type"
  | tableExpected => "dict_type"
  | recordExpected _ => "model_type"
  | fieldsExpected => "model_attributes_type"
  | choiceExpected _ => "literal_error"
  | refused _ => "value_error"
  | booleanExpected => "bool_type"
  | booleanUnclear => "bool_parsing"
  | tagMissing _ => "union_tag_not_found"
  | tagUnknown .. => "union_tag_invalid"
  | tooDeep => "recursion_loop"
  | frozen => "frozen_instance"
  | notJson _ => "json_invalid"

def inQuotes (word : String) : String :=
  "'" ++ word ++ "'"

/-- Words in quotes, with commas between them and `or` before the last. -/
def alternatives (choices : List String) : String :=
  match choices.reverse with
  | [] => ""
  | [only] => inQuotes only
  | last :: others =>
    Text.joinWith ", " (others.reverse.map inQuotes) ++ " or " ++ inQuotes last

def message : Fault → String
  | missing => "Field required"
  | textExpected => "Input should be a valid string"
  | textUnreadable =>
    "Input should be a valid string, unable to parse raw data as a unicode string"
  | textTooShort => "String should have at least 1 character"
  | listExpected => "Input should be a valid list"
  | tableExpected => "Input should be a valid dictionary"
  | recordExpected kind => "Input should be a valid dictionary or instance of " ++ kind
  | fieldsExpected => "Input should be a valid dictionary or object to extract fields from"
  | choiceExpected choices => "Input should be " ++ alternatives choices
  | refused reason => "Value error, " ++ reason
  | booleanExpected => "Input should be a valid boolean"
  | booleanUnclear => "Input should be a valid boolean, unable to interpret input"
  | tagMissing field => "Unable to extract tag using discriminator " ++ inQuotes field
  | tagUnknown tag field expected =>
    "Input tag " ++ inQuotes tag ++ " found using " ++ inQuotes field ++
      " does not match any of the expected tags: " ++
      Text.joinWith ", " (expected.map inQuotes)
  | tooDeep => "Recursion error - cyclic reference detected"
  | frozen => "Instance is frozen"
  | notJson _ => "JSON decode error"

/-- What goes into the message of a fault, by names. -/
def context : Fault → Json.Members
  | textTooShort => [("min_length", .int 1)]
  | recordExpected kind => [("class_name", .text kind)]
  | choiceExpected choices => [("expected", .text (alternatives choices))]
  | refused _ => [("error", .object [])]
  | tagMissing field => [("discriminator", .text (inQuotes field))]
  | tagUnknown tag field expected =>
    [("discriminator", .text (inQuotes field)), ("tag", .text tag),
      ("expected_tags", .text (Text.joinWith ", " (expected.map inQuotes)))]
  | notJson reason => [("error", .text reason)]
  | _ => []

end Fault

/-- The part of a value under a name. A list can stand for a record with two fields. -/
def Json.part? (value : Json) (name : Runes) : Option Json :=
  match value with
  | .list items =>
    if name = "oid" then items[0]? else if name = "selector" then items[1]? else none
  | value => value.get? name

/-- The part of a value that a path leads to. A step that leads nowhere is passed over. -/
def Json.follow : List PathPart → Json → Json
  | [], value => value
  | .key name :: rest, value => follow rest ((value.part? name).getD value)
  | .index n :: rest, value => match value with
    | .list items => follow rest (items.getD n value)
    | _ => follow rest value
  | .kind _ :: rest, value => follow rest value

/-- A fault and the path to the part that has it. -/
structure Issue where
  path : List PathPart
  fault : Fault
  deriving DecidableEq, Repr

/-- The issue as seen from a value that has the faulty value as a part. -/
def Issue.under (part : PathPart) (issue : Issue) : Issue :=
  { issue with path := part :: issue.path }

def PathPart.toJson : PathPart → Json
  | index n => .int n
  | part => .text part.text

/-- The kind, the place and the wording of an issue, by names. -/
def Issue.members (issue : Issue) : Json.Members :=
  [("type", .text issue.fault.code), ("loc", .list (issue.path.map PathPart.toJson)),
    ("msg", .text issue.fault.message)]

def Issue.toJson (issue : Issue) : Json :=
  .object issue.members

/-- An issue with the faulty value, and with what goes into its wording. -/
def Issue.detail (issue : Issue) (input : Json) : Json :=
  let context := issue.fault.context
  let more : Json.Members :=
    ("input", input) :: (if context.isEmpty then [] else [("ctx", .object context)])
  .object (issue.members ++ more)

end DesignBridge
