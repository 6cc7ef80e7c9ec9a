import DesignBridge.Design.Operation
import DesignBridge.Document.Find
import DesignBridge.Task.Report

/-! # Executing operations

An interpreter runs a batch of operations on a document, one after the other, and records one
result for each. An operation that fails never stops the batch; what it changed before it failed
stays changed.
-/

namespace DesignBridge

/-- Why an operation fails. -/
inductive Failure where
  | unknownOperation (name : Runes)
  | invalidOperation (name : Runes) (issues : List Issue)
  | noValidParent
  | targetNotFound (oid : Runes)
  | noTextTarget (oid : Runes)
  | parentNotFound (oid : Runes)
  /-- The clock shows no number, or an infinite one. -/
  | unreadableClock (infinite : Bool)
  /-- A call on the document is refused. -/
  | refused (error : DesignError)
  deriving DecidableEq

def Issue.line (issue : Issue) : String :=
  let path := Text.joinWith "." (issue.path.map PathPart.text)
  (if path.isEmpty then "op" else path) ++ ": " ++ issue.fault.message

def Failure.message : Failure → Runes
  | unknownOperation name => "Unknown operation: " ++ name
  | invalidOperation name issues =>
    "Invalid " ++ name ++ " operation: " ++ Text.joinWith "; " (issues.map Issue.line)
  | noValidParent => "No valid parent found"
  | targetNotFound oid => "Element with OID " ++ oid ++ " not found"
  | noTextTarget oid => "Could not set text content on element with OID " ++ oid
  | parentNotFound oid => "Parent element " ++ oid ++ " not found"
  | unreadableClock false => "cannot convert float NaN to integer"
  | unreadableClock true => "cannot convert float infinity to integer"
  | refused error => error.message

/-- What an operation reports when it succeeds. -/
inductive Receipt where
  | connected (timestamp : Int)
  | pageCreated (page : Nat) (name : Runes) (slug : Option Runes)
  | treeBuilt (parent : ParentChoice) (element : Nat)
  | textSet (oid text : Runes)
  | styleApplied (name : Runes) (count : Nat) (skipped : List Runes)
  | imageAdded (element : Nat) (alt : Option Runes)
  deriving DecidableEq

def Receipt.toJson : Receipt → Json
  | connected timestamp =>
    .object [("status", .text "connected"), ("timestamp", .int timestamp)]
  | pageCreated page name slug =>
    .object [("pageId", .text (pageId page)), ("name", .text name), ("slug", Json.ofText? slug)]
  | treeBuilt parent element =>
    .object [("parentType", .text parent.name), ("elementId", .text (elementId element))]
  | textSet oid text => .object [("oid", .text oid), ("text", .text text)]
  | styleApplied name count skipped =>
    .object [("styleName", .text name), ("appliedTo", .int count),
      ("skipped", .list (skipped.map .text))]
  | imageAdded element alt =>
    .object [("elementId", .text (elementId element)), ("alt", Json.ofText? alt)]

/-- An operation as it reaches the interpreter. -/
inductive Instruction where
  /-- A value that has still to be read. -/
  | raw (value : Json)
  /-- An operation that was read before. -/
  | ready (operation : Operation)
  /-- A record that is no operation, with the name that it goes by. -/
  | foreign (name : Runes)

namespace Instruction

/-- The name under which the result of an instruction is recorded. -/
def name : Instruction → Runes
  | raw value => Operation.nameOf value
  | ready operation => operation.kind.name
  | foreign name => name

/-- The operation that an instruction stands for. -/
def operation : Instruction → Except Failure Operation
  | raw (.object members) =>
    let name := Operation.nameOf (.object members)
    if (OperationKind.ofName? name).isNone then .error (.unknownOperation name)
    else match Operation.read (.object members) with
      | .accepted operation => .ok operation
      | .rejected issues => .error (.invalidOperation name issues)
  | raw value => .error (.unknownOperation (Operation.nameOf value))
  | ready operation => .ok operation
  | foreign name => .error (.unknownOperation name)

end Instruction

/-- How an interpreter is set up: the attribute that holds identifiers, and the time that its
clock shows, in seconds. -/
structure Interpreter where
  key : Runes
  clock : Number

namespace Interpreter

/-- What an operation does: the document after it, and its report or failure. -/
abbrev Outcome := Document × Except Failure Receipt

/-- The time in whole milliseconds. -/
def timestamp (clock : Number) : Except Failure Int :=
  match clock with
  | .int n => .ok (n * 1000)
  | .real x => match Binary.ofFloat? (x * 1000.0) with
    | some b => .ok b.truncate
    | none => .error (.unreadableClock (!x.isNaN))

/-- Creates a page and goes to it. -/
def createPage (name : Runes) (slug : Option Runes) (d : Document) : Outcome :=
  let (d, number) := d.createPage
  -- An empty slug is no slug: the page keeps the one it was made with.
  let slugged := Sketch.nonempty? slug
  let d := d.modifyPage number fun page =>
    { page with name, slug := slugged.or page.slug }
  match d.switchPage number with
  | .ok d => (d, .ok (.pageCreated number name slug))
  | .error e => (d, .error (.refused e))

/-- The element that a new tree goes into: the selected one if it was chosen and holds children,
otherwise the root. -/
def parentFor (choice : ParentChoice) (d : Document) : Except Failure Element :=
  let selected := if choice = .selected then d.selection?.filter (·.can .children) else none
  match selected with
  | some e => .ok e
  | none => match d.root?.filter (·.can .children) with
    | some root => .ok root
    | none => .error .noValidParent

/-- Builds a tree of new elements. -/
def buildTree (key : Runes) (choice : ParentChoice) (tree : Node) (d : Document) : Outcome :=
  match parentFor choice d with
  | .error e => (d, .error e)
  | .ok parent =>
    match d.attach parent (Sketch.ofNode key tree) with
    | .ok (d, number) => (d, .ok (.treeBuilt choice number))
    | .error e => (d, .error (.refused e))

/-- The element whose text is set in place of a target: the target itself if it shows text,
otherwise its first text child. -/
def textTarget? (target : Element) : Option Element :=
  if target.can .text && (Sketch.nonempty? target.facet.text).isSome then some target
  else if target.can .children then
    target.children.find? fun child => child.kind = .text && child.can .text
  else none

def setText (key : Runes) (target : Reference) (text : Runes) (d : Document) : Outcome :=
  match d.resolve key target.oid.text target.selector with
  | .error e => (d, .error (.refused e))
  | .ok none => (d, .error (.targetNotFound target.oid.text))
  | .ok (some found) =>
    match textTarget? found with
    | none => (d, .error (.noTextTarget target.oid.text))
    | some e => match d.setText e text with
      | .ok d => (d, .ok (.textSet target.oid.text text))
      | .error e => (d, .error (.refused e))

/-- Defines a style by its specification. -/
def defineStyle (spec : StyleSpec) (d : Document) : Document :=
  let parent := Sketch.nonempty? spec.parent
  -- The parent is made first, so it is listed before the style that builds on it.
  let d := match parent with
    | some name => d.createStyle name
    | none => d
  let d := (d.createStyle spec.name.text).setProperties spec.name.text spec.properties
  match parent with
  | some name => d.setParent spec.name.text name
  | none => d

/-- Gives the elements that references lead to one style. References that lead nowhere, or to an
element without styles, are skipped. -/
def styleTargets (key name : Runes) : List Reference → Nat → List Runes → Document → Outcome
  | [], count, skipped, d => (d, .ok (.styleApplied name count skipped.reverse))
  | target :: rest, count, skipped, d =>
    match d.resolve key target.oid.text target.selector with
    | .error e => (d, .error (.refused e))
    | .ok found => match found.filter (·.can .styles) with
      | none => styleTargets key name rest count (target.oid.text :: skipped) d
      | some e => match d.setStyles e [name] with
        | .ok d => styleTargets key name rest (count + 1) skipped d
        | .error e => (d, .error (.refused e))

/-- Defines a style and gives it to elements. -/
def applyStyle (key : Runes) (spec : StyleSpec) (targets : List Reference) (d : Document) :
    Outcome :=
  styleTargets key spec.name.text targets 0 [] (defineStyle spec d)

/-- Sets what a new image shows and the text that stands for it. -/
def fillImage (image : Element) (asset alt : Option Runes) (d : Document) :
    Document × Except DesignError Unit :=
  let withAsset : Except DesignError Document := match Sketch.nonempty? asset with
    | none => .ok d
    | some id => do
      -- Whether there is such an asset comes before whether the element can show one.
      let _ ← d.asset id
      d.setAsset image id
  match withAsset with
  | .error e => (d, .error e)
  | .ok d => match Sketch.nonempty? alt with
    | none => (d, .ok ())
    | some text => match d.setAltText image text with
      | .ok d => (d, .ok ())
      | .error e => (d, .error e)

/-- Adds an image to an element. The image stays when its asset does not exist. -/
def addImage (key : Runes) (parent : Reference) (asset : Option AssetRef) (alt : Option Runes)
    (d : Document) : Outcome :=
  match d.resolve key parent.oid.text parent.selector with
  | .error e => (d, .error (.refused e))
  | .ok found => match found.filter (·.can .children) with
    | none => (d, .error (.parentNotFound parent.oid.text))
    | some e => match d.attach e (Document.preset .image) with
      | .error e => (d, .error (.refused e))
      | .ok (d, number) =>
        match fillImage (.leaf (.plain number .image none)) (asset.bind (·.id)) alt d with
        | (d, .ok ()) => (d, .ok (.imageAdded number alt))
        | (d, .error e) => (d, .error (.refused e))

/-- Runs one operation. -/
def perform (i : Interpreter) (d : Document) : Operation → Outcome
  | .testConnection => (d, (timestamp i.clock).map .connected)
  | .createPage name slug => createPage name.text slug d
  | .buildTree parent tree => buildTree i.key parent tree d
  | .setText target text => setText i.key target text d
  | .applyStyle style targets => applyStyle i.key style targets d
  | .addImage parent asset alt => addImage i.key parent asset alt d

/-- The result to record for an outcome. -/
def resultOf (name : Runes) : Except Failure Receipt → OperationResult
  | .ok receipt => ⟨name, true, receipt.toJson, none⟩
  | .error e => ⟨name, false, .null, some e.message⟩

/-- Runs one instruction and records its result. -/
def step (i : Interpreter) (d : Document) (instruction : Instruction) :
    Document × OperationResult :=
  let (d, outcome) := match instruction.operation with
    | .ok operation => i.perform d operation
    | .error e => (d, .error e)
  (d, resultOf instruction.name outcome)

/-- Runs a batch in order. -/
def run (i : Interpreter) (d : Document) : List Instruction → Document × List OperationResult
  | [] => (d, [])
  | instruction :: rest =>
    let (d, result) := i.step d instruction
    let (d, results) := run i d rest
    (d, result :: results)

end Interpreter

end DesignBridge
