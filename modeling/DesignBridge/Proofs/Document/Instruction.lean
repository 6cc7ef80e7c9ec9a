import DesignBridge.Document.Execute
import DesignBridge.Proofs.Document.Failure
import DesignBridge.Proofs.Validation.Accepted

/-! # Raw operations

A raw value stands for an operation just if it is read as one, and then it runs like the operation
that was read, under the same name. So a batch of them runs like the batch of what they are read as,
and no result in it says that a value is no operation.
-/

namespace DesignBridge

open Validation

theorem OperationKind.name_of_ofName? {s : Runes} {kind : OperationKind}
    (h : ofName? s = some kind) : (kind.name : Runes) = s := by
  unfold ofName? at h
  rw [List.find?_eq_some_iff_append] at h
  exact eq_of_beq h.1

theorem OperationKind.isTruthy_name (kind : OperationKind) :
    (Json.text kind.name).isTruthy = true := by
  cases kind <;> decide

namespace Operation

theorem kind_of_readBody {members : Json.Members} {kind : OperationKind} {operation : Operation}
    (h : readBody members kind = .accepted operation) : operation.kind = kind := by
  cases kind with
  | testConnection =>
      obtain rfl := Checked.accepted.inj h
      rfl
  | createPage | buildTree | setText | applyStyle =>
      obtain ⟨_, _, _, _, rfl⟩ := Checked.map_seq_eq_accepted_iff.mp h
      rfl
  | addImage =>
      obtain ⟨_, _, hpair, _, rfl⟩ := Checked.seq_eq_accepted_iff.mp h
      obtain ⟨_, _, _, _, rfl⟩ := Checked.map_seq_eq_accepted_iff.mp hpair
      rfl

/-- A value that is read as an operation is an object that names its kind. -/
theorem tag_of_read {value : Json} {operation : Operation}
    (h : read value = .accepted operation) :
    ∃ members, value = .object members ∧
      members.lookup ↑tagField = some (.text operation.kind.name) := by
  cases value with
  | object members =>
      refine ⟨members, rfl, ?_⟩
      rw [read] at h
      split at h
      next => cases h
      next tag htag =>
        split at h
        next kind hkind =>
          have hfields := Checked.under_eq_accepted_iff.mp h
          obtain ⟨_, _, _, hbody, rfl⟩ := Checked.map_seq_eq_accepted_iff.mp hfields
          cases tag with
          | text name => rw [htag, kind_of_readBody hbody, OperationKind.name_of_ofName? hkind]
          | _ => cases hkind
        next => cases h
  | null | bool | number | text | list => cases h

theorem nameOf_of_read {value : Json} {operation : Operation}
    (h : read value = .accepted operation) : nameOf value = operation.kind.name := by
  obtain ⟨members, rfl, htag⟩ := tag_of_read h
  rw [nameOf, htag]
  exact if_pos operation.kind.isTruthy_name

end Operation

namespace Instruction

/-- A raw value stands for what it is read as. -/
theorem operation_raw_iff {value : Json} {operation : Operation} :
    (raw value).operation = .ok operation ↔ Operation.read value = .accepted operation := by
  constructor
  · intro h
    unfold Instruction.operation at h
    split at h
    next members heq =>
      obtain rfl := Instruction.raw.inj heq
      dsimp only at h
      split at h
      next => cases h
      next =>
        split at h
        next read hread =>
          obtain rfl := Except.ok.inj h
          exact hread
        next => cases h
    next => cases h
    next heq => cases heq
    next => cases h
  · intro h
    have hname := Operation.nameOf_of_read h
    obtain ⟨members, rfl, _⟩ := Operation.tag_of_read h
    rw [Instruction.operation, hname, OperationKind.ofName?_name, h]
    rfl

theorem map_operation_raw {items : List Json} {operations : List Operation}
    (h : items.map Operation.read = operations.map .accepted) :
    items.map (fun item => (raw item).operation) = operations.map .ok := by
  induction items generalizing operations with
  | nil =>
      cases operations with
      | nil => rfl
      | cons operation rest => cases h
  | cons item items ih =>
      cases operations with
      | nil => cases h
      | cons operation operations =>
          obtain ⟨hitem, hitems⟩ := List.cons.inj h
          rw [List.map_cons, List.map_cons, operation_raw_iff.mpr hitem, ih hitems]

theorem name_raw {value : Json} {operation : Operation}
    (h : Operation.read value = .accepted operation) : (raw value).name = (ready operation).name :=
  Operation.nameOf_of_read h

end Instruction

namespace Failure

/-- Whether a failure says that a value is no operation. -/
def isMalformed : Failure → Bool
  | unknownOperation _ => true
  | invalidOperation .. => true
  | _ => false

/-- The rune at a place in a text with a fixed beginning. -/
theorem getElem?_list_append {front : Runes} (rest : Runes) {n : Nat} {r : Rune}
    (h : front.list[n]? = some r) : (front ++ rest).list[n]? = some r := by
  obtain ⟨hn, _⟩ := List.getElem?_eq_some_iff.mp h
  rw [Runes.list_append, List.getElem?_append_left hn, h]

theorem second_letter_of_isMalformed {e : Failure} (h : e.isMalformed = true) :
    e.message.list[1]? = some (.char 'n') := by
  cases e with
  | unknownOperation name => exact getElem?_list_append _ (by decide)
  | invalidOperation name issues =>
      exact getElem?_list_append _ (getElem?_list_append _ (getElem?_list_append _ (by decide)))
  | _ => cases h

theorem second_letter_of_refused {error : DesignError}
    (h : ∀ number, error ≠ .unknownPage number) :
    ∃ c, (refused error).message.list[1]? = some c ∧ c ≠ .char 'n' := by
  cases error with
  | unsupported kind capability =>
      cases kind <;>
        exact ⟨_, getElem?_list_append _ (getElem?_list_append _ rfl), by decide⟩
  | childless kind => cases kind <;> exact ⟨_, rfl, by decide⟩
  | unknownPage number => exact absurd rfl (h number)
  | assetNotFound id =>
      exact ⟨_, getElem?_list_append _ (getElem?_list_append _ rfl), by decide⟩
  | noRoot => exact ⟨_, rfl, by decide⟩

theorem second_letter_of_not_isMalformed {e : Failure} (h : e.isMalformed = false)
    (hpage : ∀ number, e ≠ .refused (.unknownPage number)) :
    ∃ c, e.message.list[1]? = some c ∧ c ≠ .char 'n' := by
  cases e with
  | unknownOperation name => cases h
  | invalidOperation name issues => cases h
  | noValidParent => exact ⟨_, rfl, by decide⟩
  | targetNotFound oid | parentNotFound oid =>
      exact ⟨_, getElem?_list_append _ (getElem?_list_append _ rfl), by decide⟩
  | noTextTarget oid => exact ⟨_, getElem?_list_append _ rfl, by decide⟩
  | unreadableClock infinite => cases infinite <;> exact ⟨_, rfl, by decide⟩
  | refused error => exact second_letter_of_refused fun number heq => hpage number (heq ▸ rfl)

/-- No other failure is worded like that. -/
theorem message_ne {e other : Failure} (h : e.isMalformed = true)
    (hother : other.isMalformed = false) : other.message ≠ e.message := by
  intro heq
  by_cases hpage : ∃ number, other = .refused (.unknownPage number)
  · obtain ⟨number, rfl⟩ := hpage
    cases e with
    | unknownOperation name =>
        have hpage : (refused (.unknownPage number)).message.list[8]? = some (.char 'p') :=
          getElem?_list_append _ (by decide)
        have hname : (unknownOperation name).message.list[8]? = some (.char 'o') :=
          getElem?_list_append _ (by decide)
        rw [heq, hname] at hpage
        cases hpage
    | invalidOperation name issues =>
        have hpage : (refused (.unknownPage number)).message.list[0]? = some (.char 'U') :=
          getElem?_list_append _ (by decide)
        have hname : (invalidOperation name issues).message.list[0]? = some (.char 'I') :=
          getElem?_list_append _ (getElem?_list_append _ (getElem?_list_append _ (by decide)))
        rw [heq, hname] at hpage
        cases hpage
    | _ => cases h
  · obtain ⟨c, hc, hne⟩ := second_letter_of_not_isMalformed hother (not_exists.mp hpage)
    rw [heq, second_letter_of_isMalformed h] at hc
    exact hne (Option.some.inj hc).symm

end Failure

namespace Interpreter

variable {key : Runes} {d : Document} {e : Failure}

theorem isMalformed_buildTree {choice : ParentChoice} {tree : Node}
    (h : (buildTree key choice tree d).2 = .error e) : e.isMalformed = false := by
  unfold buildTree at h
  split at h
  next failure hparent =>
    obtain rfl := Except.error.inj h
    unfold parentFor at hparent
    dsimp only at hparent
    split at hparent
    next => cases hparent
    next =>
      split at hparent
      next => cases hparent
      next =>
        obtain rfl := Except.error.inj hparent
        rfl
  next =>
    split at h
    next => cases h
    next =>
      obtain rfl := Except.error.inj h
      rfl

theorem isMalformed_setText {target : Reference} {text : Runes}
    (h : (setText key target text d).2 = .error e) : e.isMalformed = false := by
  unfold setText at h
  repeat' split at h
  all_goals cases h
  all_goals rfl

theorem isMalformed_styleTargets {name : Runes} {targets : List Reference} {count : Nat}
    {skipped : List Runes} (h : (styleTargets key name targets count skipped d).2 = .error e) :
    e.isMalformed = false := by
  induction targets generalizing count skipped d with
  | nil => cases h
  | cons target rest ih =>
      unfold styleTargets at h
      split at h
      next =>
        obtain rfl := Except.error.inj h
        rfl
      next =>
        split at h
        next => exact ih h
        next =>
          split at h
          next => exact ih h
          next =>
            obtain rfl := Except.error.inj h
            rfl

theorem isMalformed_addImage {parent : Reference} {asset : Option AssetRef} {alt : Option Runes}
    (h : (addImage key parent asset alt d).2 = .error e) : e.isMalformed = false := by
  unfold addImage at h
  repeat' split at h
  all_goals cases h
  all_goals rfl

theorem isMalformed_timestamp {clock : Number} (h : timestamp clock = .error e) :
    e.isMalformed = false := by
  unfold timestamp at h
  repeat' split at h
  all_goals cases h
  rfl

/-- An operation that was read is never said to be none. -/
theorem isMalformed_perform (i : Interpreter) {operation : Operation}
    (h : (i.perform d operation).2 = .error e) : e.isMalformed = false := by
  cases operation with
  | testConnection =>
      unfold perform at h
      cases htime : timestamp i.clock with
      | ok time =>
          rw [htime] at h
          cases h
      | error failure =>
          rw [htime] at h
          obtain rfl := Except.error.inj h
          exact isMalformed_timestamp htime
  | createPage name slug =>
      -- Creating a page cannot fail.
      obtain ⟨next, receipt, hok⟩ := createPage_ok name.text slug d
      have hok : i.perform d (.createPage name slug) = (next, .ok receipt) := hok
      rw [hok] at h
      cases h
  | buildTree parent tree => exact isMalformed_buildTree h
  | setText target text => exact isMalformed_setText h
  | applyStyle style targets => exact isMalformed_styleTargets h
  | addImage parent asset alt => exact isMalformed_addImage h

theorem error_step_ready (i : Interpreter) (d : Document) (operation : Operation)
    (he : e.isMalformed = true) : (i.step d (.ready operation)).2.error ≠ some e.message := by
  have hstep : (i.step d (.ready operation)).2 =
      resultOf operation.kind.name (i.perform d operation).2 := rfl
  rw [hstep]
  cases houtcome : (i.perform d operation).2 with
  | ok receipt => exact nofun
  | error failure =>
      intro heq
      exact Failure.message_ne he (isMalformed_perform i houtcome) (Option.some.inj heq)

/-- No result of operations that were read is worded as if one of them were none. -/
theorem error_run_ready (i : Interpreter) (d : Document) (operations : List Operation)
    (he : e.isMalformed = true) :
    ∀ result ∈ (i.run d (operations.map .ready)).2, result.error ≠ some e.message := by
  induction operations generalizing d with
  | nil => exact fun result hmem => nomatch hmem
  | cons operation rest ih =>
      rw [List.map_cons, run_cons]
      intro result hmem
      rcases List.mem_cons.mp hmem with rfl | hmem
      · exact error_step_ready i d operation he
      · exact ih _ result hmem

/-- A raw value that is read as an operation runs like that operation. -/
theorem step_raw (i : Interpreter) (d : Document) {value : Json} {operation : Operation}
    (h : Operation.read value = .accepted operation) :
    i.step d (.raw value) = i.step d (.ready operation) := by
  unfold step
  rw [Instruction.operation_raw_iff.mpr h, Instruction.name_raw h]
  rfl

/-- So does a batch of them. -/
theorem run_raw (i : Interpreter) (d : Document) {items : List Json} {operations : List Operation}
    (h : items.map Operation.read = operations.map .accepted) :
    i.run d (items.map .raw) = i.run d (operations.map .ready) := by
  induction items generalizing d operations with
  | nil =>
      cases operations with
      | nil => rfl
      | cons operation rest => cases h
  | cons item items ih =>
      cases operations with
      | nil => cases h
      | cons operation operations =>
          obtain ⟨hitem, hitems⟩ := List.cons.inj h
          rw [List.map_cons, List.map_cons, run_cons, run_cons, step_raw i d hitem, ih _ hitems]

end Interpreter

end DesignBridge
