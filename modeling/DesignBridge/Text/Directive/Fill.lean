import DesignBridge.Text.Directive.Reader

/-! # Filling in

Directives take their arguments one after the other. If there is a single argument, and it is an
object with members, they may also take its members by name; it may then be left over itself.
-/

namespace DesignBridge.Text

/-- How far the filling in of a text has come. -/
structure Filling where
  /-- What can be taken by name, if anything can. -/
  named : Option Json.Members
  /-- What is to be taken next. -/
  waiting : List Json
  /-- The layout that the directive has asked for so far. -/
  layout : Layout := {}
  /-- What is written so far, in reverse. -/
  written : List Char := []

namespace Filling

/-- Nothing is written yet. -/
def start (arguments : List Json) : Filling :=
  match arguments with
  | [.object (first :: rest)] => ⟨some (first :: rest), arguments, {}, []⟩
  | _ => ⟨none, arguments, {}, []⟩

/-- The next argument. -/
def take (f : Filling) : Except DirectiveError (Json × Filling) :=
  match f.waiting with
  | [] => .error .tooFewArguments
  | argument :: waiting => .ok (argument, { f with waiting })

/-- The next argument as an integer, for a width or a limit. -/
def takeSize (f : Filling) : Except DirectiveError (Int × Filling) := do
  let (argument, f) ← f.take
  match argument with
  | .number (.int n) => return (n, f)
  | .bool b => return (if b then 1 else 0, f)
  | _ => throw .sizeExpected

/-- Takes up a flag. -/
def flag (f : Filling) (c : Char) : Filling :=
  let layout := match c with
    | '-' => { f.layout with left := true }
    | '0' => { f.layout with zeros := true }
    | '+' => { f.layout with plus := true }
    | ' ' => { f.layout with blank := true }
    | _ => { f.layout with alternate := true }
  { f with layout }

/-- Wider texts are not written. -/
def maxWritten : Nat := 0xFFFFFFFF

def step (f : Filling) : Step → Except DirectiveError Filling
  | .char c => .ok { f with written := c :: f.written }
  -- The named argument takes the place of all that were waiting.
  | .named name => match f.named, name with
    | none, _ => .error .namesExpected
    | some _, none => .error .unclosedName
    | some members, some name => match members.lookup ↑name with
      | some argument => .ok { f with waiting := [argument] }
      | none => .error (.unknownName name)
  | .flag c => .ok (f.flag c)
  | .width n => .ok { f with layout := { f.layout with width := n } }
  | .takeWidth => do
    let (n, f) ← f.takeSize
    if n.natAbs ≤ Step.maxWidth then
      return { f with layout :=
        -- A negative width asks for the left margin.
        { f.layout with width := n.natAbs, left := f.layout.left || n < 0 } }
    else throw .takenWidthRange
  | .limit n => .ok { f with layout := { f.layout with limit := some n } }
  | .takeLimit => do
    let (n, f) ← f.takeSize
    if -(Step.maxLimit : Int) - 1 ≤ n ∧ n ≤ Step.maxLimit then
      return { f with layout := { f.layout with limit := some n.toNat } }
    else throw .takenLimitRange
  | .write letter index => do
    let (argument, f) ← f.take
    match Form.ofChar? letter with
    | none => throw (.unknownForm letter index)
    | some form =>
      let content ← form.write f.layout letter argument
      if maxWritten < f.layout.width then throw .tooLong
      return { f with written := (f.layout.write content).reverse ++ f.written, layout := {} }
  | .fault e => .error e

end Filling

/-- Fills in the directives of a text. Without arguments the text is left as it is. -/
def fill (s : String) (arguments : List Json) : Except DirectiveError String :=
  if arguments.isEmpty then .ok s
  else do
    let f ← (Step.ofText s).foldlM Filling.step (.start arguments)
    if f.waiting.isEmpty || f.named.isSome then return String.ofList f.written.reverse
    else throw .tooManyArguments

end DesignBridge.Text
