import DesignBridge.Validation.Issue

/-! # Checked values

A check either accepts, with the value that was read, or rejects with every issue it found. Checks
of the parts of a record are put together by `<*>`, which keeps the issues of both sides in order;
so one fault never hides another.
-/

namespace DesignBridge

/-- The outcome of a check. -/
inductive Checked (α : Type) where
  | accepted (value : α)
  | rejected (issues : List Issue)
  deriving DecidableEq

namespace Checked

variable {α β : Type}

/-- The issues of a check; there are none when it accepts. -/
def issues : Checked α → List Issue
  | accepted _ => []
  | rejected list => list

/-- The value of a check that accepts. -/
def value? : Checked α → Option α
  | accepted a => some a
  | rejected _ => none

/-- Rejects with one issue about the whole value. -/
def fail (fault : Fault) : Checked α :=
  rejected [⟨[], fault⟩]

/-- Applies a function to what was read. -/
def map (f : α → β) : Checked α → Checked β
  | accepted a => accepted (f a)
  | rejected list => rejected list

/-- Puts two checks together. -/
def seq (f : Checked (α → β)) (x : Checked α) : Checked β :=
  match f, x with
  | accepted f, accepted a => accepted (f a)
  | accepted _, rejected list => rejected list
  | rejected list, x => rejected (list ++ x.issues)

instance : Applicative Checked where
  pure := accepted
  map := map
  seq f x := seq f (x ())

/-- A further check of a value that was accepted. -/
def andThen (x : Checked α) (f : α → Checked β) : Checked β :=
  match x with
  | accepted a => f a
  | rejected list => rejected list

/-- Changes every issue. -/
def mapIssues (f : Issue → Issue) : Checked α → Checked α
  | accepted a => accepted a
  | rejected list => rejected (list.map f)

/-- The check of a part, with issues as seen from the whole. -/
def under (part : PathPart) (x : Checked α) : Checked α :=
  x.mapIssues (Issue.under part)

/-- The check of a value that came as the body of a message: a record of any kind may be missing
in it, and the kind is not named. -/
def asBody (x : Checked α) : Checked α :=
  x.mapIssues fun issue => match issue.fault with
    | .recordExpected _ => { issue with fault := .fieldsExpected }
    | _ => issue

@[simp] theorem map_accepted (f : α → β) (a : α) : f <$> accepted a = accepted (f a) := rfl

@[simp] theorem map_rejected (f : α → β) (list : List Issue) :
    f <$> (rejected list : Checked α) = rejected list := rfl

@[simp] theorem seq_accepted (f : α → β) (a : α) :
    accepted f <*> accepted a = accepted (f a) := rfl

@[simp] theorem pure_eq (a : α) : (pure a : Checked α) = accepted a := rfl

@[simp] theorem under_accepted (part : PathPart) (a : α) :
    (accepted a).under part = accepted a := rfl

end Checked

end DesignBridge
