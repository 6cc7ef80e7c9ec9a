import DesignBridge.Design.Node
import DesignBridge.Design.Reference

/-! # Operations

The operations on a design document. On the wire an operation is an object whose field `op` names
its kind.
-/

namespace DesignBridge

/-- The kinds of operations. -/
inductive OperationKind where
  | createPage
  | buildTree
  | setText
  | applyStyle
  | addImage
  | testConnection
  deriving DecidableEq, Repr

namespace OperationKind

/-- All kinds, in the order in which messages list them. -/
def all : List OperationKind :=
  [createPage, buildTree, setText, applyStyle, addImage, testConnection]

def name : OperationKind → String
  | createPage => "CREATE_PAGE"
  | buildTree => "BUILD_TREE"
  | setText => "SET_TEXT_BY_OID"
  | applyStyle => "APPLY_STYLE"
  | addImage => "ADD_IMAGE"
  | testConnection => "TEST_CONNECTION"

def ofName? (s : Runes) : Option OperationKind :=
  all.find? (·.name == s)

/-- The name of the record that holds an operation of a kind. -/
def record : OperationKind → String
  | createPage => "CreatePage"
  | buildTree => "BuildTree"
  | setText => "SetText"
  | applyStyle => "ApplyStyle"
  | addImage => "AddImage"
  | testConnection => "TestConnection"

theorem ofName?_name (kind : OperationKind) : ofName? kind.name = some kind := by
  cases kind <;> decide

end OperationKind

/-- The element that a new tree goes into. -/
inductive ParentChoice where
  | selected
  | root
  deriving DecidableEq, Repr

namespace ParentChoice

def name : ParentChoice → String
  | selected => "selected"
  | root => "root"

def words : List (String × ParentChoice) :=
  [("selected", selected), ("root", root)]

/-- Accepts a choice; the page's root has a second word. -/
def read : Json → Checked ParentChoice
  | .text s => if s = "pageRoot" then .accepted root else Validation.readChoice words (.text s)
  | value => Validation.readChoice words value

end ParentChoice

/-- The definition of a named style. -/
structure StyleSpec where
  name : Label
  properties : Table Runes
  parent : Option Runes
  deriving DecidableEq

namespace StyleSpec

open Validation

def kind : String := "StyleSpec"

def readFields (members : Json.Members) : Checked StyleSpec :=
  mk <$> requiredField members "name" Label.read
    <*> fieldOr members "properties" Table.empty readTextTable
    <*> optionalField members ⟨"parentStyleName", "parent_style_name"⟩ readText

def read : Json → Checked StyleSpec :=
  readRecord kind readFields

def fields (spec : StyleSpec) : List (FieldKey × View) :=
  [("name", .value (.text spec.name.text)), ("properties", .texts spec.properties),
    (⟨"parentStyleName", "parent_style_name"⟩, View.text? spec.parent)]

end StyleSpec

/-- The choice of an uploaded asset. -/
structure AssetRef where
  id : Option Runes
  deriving DecidableEq

namespace AssetRef

open Validation

def kind : String := "AssetRef"

def readFields (members : Json.Members) : Checked AssetRef :=
  mk <$> optionalField members ⟨"byId", "by_id"⟩ readText

def read : Json → Checked AssetRef :=
  readRecord kind readFields

def fields (asset : AssetRef) : List (FieldKey × View) :=
  [(⟨"byId", "by_id"⟩, View.text? asset.id)]

end AssetRef

/-- An operation on a document. -/
inductive Operation where
  | createPage (name : Label) (slug : Option Runes)
  | buildTree (parent : ParentChoice) (tree : Node)
  | setText (target : Reference) (text : Runes)
  | applyStyle (style : StyleSpec) (targets : List Reference)
  | addImage (parent : Reference) (asset : Option AssetRef) (alt : Option Runes)
  | testConnection

namespace Operation

open Validation

def kind : Operation → OperationKind
  | createPage .. => .createPage
  | buildTree .. => .buildTree
  | setText .. => .setText
  | applyStyle .. => .applyStyle
  | addImage .. => .addImage
  | testConnection => .testConnection

/-- The field that names the kind. -/
def tagField : String := "op"

/-- Checks the field that names the kind, for a record whose kind is known. It may be absent. -/
def readTag (kind : OperationKind) (members : Json.Members) : Checked Unit :=
  fieldOr members tagField () (readChoice [(kind.name, ())])

/-- Reads the fields of an operation of a known kind, apart from the one that names it. -/
def readBody (members : Json.Members) : OperationKind → Checked Operation
  | .createPage =>
    createPage <$> requiredField members "name" Label.read <*> optionalField members "slug" readText
  | .buildTree =>
    buildTree <$> fieldOr members "parent" .selected ParentChoice.read
      <*> requiredField members "tree" Node.read
  | .setText =>
    setText <$> Reference.readFields members <*> requiredField members "text" readText
  | .applyStyle =>
    applyStyle <$> requiredField members "style" StyleSpec.read
      <*> fieldOr members "oids" [] (readList Reference.read)
  | .addImage =>
    addImage <$> requiredField members ⟨"parentOid", "parent_oid"⟩ Reference.read
      <*> optionalField members "asset" AssetRef.read
      <*> optionalField members "alt" readText
  | .testConnection => .accepted testConnection

def readFields (kind : OperationKind) (members : Json.Members) : Checked Operation :=
  (fun _ operation => operation) <$> readTag kind members <*> readBody members kind

def readAs (kind : OperationKind) : Json → Checked Operation :=
  readRecord kind.record (readFields kind)

/-- The issue with a value that names no kind. -/
def unknownTag (tag : Runes) : Fault :=
  .tagUnknown tag.lossy tagField (OperationKind.all.map OperationKind.name)

/-- The kind that a value names. -/
def kindOf? : Json → Option OperationKind
  | .text s => OperationKind.ofName? s
  | _ => none

/-- Reads an operation of any kind. Issues with its fields are found under the name of its kind. -/
def read : Json → Checked Operation
  | .object members =>
    match members.lookup ↑tagField with
    | none => .fail (.tagMissing tagField)
    | some tag => match kindOf? tag with
      | some kind => (readFields kind members).under (.kind kind.name)
      | none => .fail (unknownTag tag.display)
  | _ => .fail .fieldsExpected

/-- The fields of an operation apart from its kind. -/
def bodyFields : Operation → List (FieldKey × View)
  | createPage name slug => [("name", .value (.text name.text)), ("slug", View.text? slug)]
  | buildTree parent tree => [("parent", .value (.text parent.name)), ("tree", tree.view)]
  | setText target text => target.fields ++ [((.same "text" : FieldKey), .value (.text text))]
  | applyStyle style targets =>
    [("style", .record style.fields),
      ("oids", .list (targets.map fun reference => .record reference.fields))]
  | addImage parent asset alt =>
    [(⟨"parentOid", "parent_oid"⟩, .record parent.fields),
      ("asset", View.ofOption (fun a => .record a.fields) asset), ("alt", View.text? alt)]
  | testConnection => []

def fields (operation : Operation) : List (FieldKey × View) :=
  ((tagField : FieldKey), .value (.text operation.kind.name)) :: operation.bodyFields

def toRecord (operation : Operation) : Record :=
  ⟨operation.kind.record, true, operation.fields⟩

/-- The name of the operation that a raw value asks for, as far as one can be told. -/
def nameOf : Json → Runes
  | .object members =>
    match members.lookup ↑tagField with
    | some tag => if tag.isTruthy then tag.display else "UNKNOWN"
    | none => "UNKNOWN"
  | _ => "UNKNOWN"

end Operation

end DesignBridge
