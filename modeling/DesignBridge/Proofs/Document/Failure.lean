import DesignBridge.Proofs.Document.Calls

/-! # What a failing operation leaves behind

An operation that fails leaves the document as it was, apart from two cases that come from the order
of the calls it makes: an image is added before its asset is looked up, and a style is defined
before the elements that get it are.
-/

namespace DesignBridge.Interpreter

open Document

/-- What an operation leaves behind when it fails after it has changed the document: an image whose
asset does not exist, or a style that no element could be given, for want of a root. -/
inductive Residue (i : Interpreter) (d : Document) : Operation → Document → Prop
  | image {reference : Reference} {asset : Option AssetRef} {alt : Option Runes} {parent : Element}
      {id : Runes}
      (hparent : d.resolve i.key reference.oid.text reference.selector = .ok (some parent))
      (hcan : parent.can .children = true)
      (hasset : Sketch.nonempty? (asset.bind (·.id)) = some id)
      (hmissing : d.assets.get? id = none) :
      Residue i d (.addImage reference asset alt) (d.attached parent (preset .image))
  | style {spec : StyleSpec} {targets : List Reference} (htargets : targets ≠ [])
      (hroot : d.root? = none) :
      Residue i d (.applyStyle spec targets) (defineStyle spec d)

/-- What an instruction leaves behind in the same way. -/
def Leaves (i : Interpreter) (d : Document) (instruction : Instruction) (after : Document) : Prop :=
  ∃ operation, instruction.operation = .ok operation ∧ Residue i d operation after

section

variable {i : Interpreter} {d after : Document} {e : Failure}

/-! ## One operation at a time -/

theorem buildTree_failed {key : Runes} {choice : ParentChoice} {tree : Node}
    (h : buildTree key choice tree d = (after, .error e)) : after = d := by
  unfold buildTree at h
  split at h
  next => exact (Prod.mk.inj h).1.symm
  next parent hparent =>
    rw [attach_ok d (Sketch.ofNode key tree) (parentFor_can hparent)] at h
    cases h

theorem setText_failed {key : Runes} {target : Reference} {text : Runes}
    (h : setText key target text d = (after, .error e)) : after = d := by
  unfold setText at h
  split at h
  next => exact (Prod.mk.inj h).1.symm
  next => exact (Prod.mk.inj h).1.symm
  next found _ =>
    split at h
    next => exact (Prod.mk.inj h).1.symm
    next element helement =>
      rw [setText_ok d text (textTarget?_can helement)] at h
      cases h

theorem applyStyle_failed {spec : StyleSpec} {targets : List Reference}
    (h : applyStyle i.key spec targets d = (after, .error e)) :
    Residue i d (.applyStyle spec targets) after := by
  unfold applyStyle at h
  cases hroot : d.root? with
  | some root =>
      have hdefined : (defineStyle spec d).root?.isSome = true := by simp [root?_defineStyle, hroot]
      obtain ⟨next, receipt, hok⟩ := styleTargets_ok i.key spec.name.text targets 0 [] hdefined
      rw [hok] at h
      cases h
  | none =>
      have hdefined : (defineStyle spec d).root? = none := by rw [root?_defineStyle, hroot]
      have htargets : targets ≠ [] := by
        rintro rfl
        cases h
      rw [styleTargets_noRoot i.key spec.name.text htargets 0 [] hdefined] at h
      obtain ⟨rfl, _⟩ := Prod.mk.inj h
      exact .style htargets hroot

theorem addImage_failed {parent : Reference} {asset : Option AssetRef} {alt : Option Runes}
    (h : addImage i.key parent asset alt d = (after, .error e)) :
    after = d ∨ Residue i d (.addImage parent asset alt) after := by
  unfold addImage at h
  split at h
  next => exact Or.inl (Prod.mk.inj h).1.symm
  next found hfound =>
    split at h
    next => exact Or.inl (Prod.mk.inj h).1.symm
    next element helement =>
      obtain ⟨rfl, hcan⟩ := Option.filter_eq_some_iff.mp helement
      rw [attach_ok d (preset .image) hcan] at h
      dsimp only at h
      by_cases hthere : ∀ id, Sketch.nonempty? (asset.bind (·.id)) = some id →
          (d.assets.get? id).isSome = true
      · obtain ⟨filled, hfilled⟩ := fillImage_ok ((preset .image).place d.nextElement).1.id
          (d := d.attached element (preset .image)) alt hthere
        rw [hfilled] at h
        cases h
      · obtain ⟨id, hid⟩ := Classical.not_forall.mp hthere
        obtain ⟨hasset, hnone⟩ := Classical.not_imp.mp hid
        have hmissing : d.assets.get? id = none := by simpa using hnone
        rw [fillImage_missing _ (d := d.attached element (preset .image)) alt hasset hmissing] at h
        obtain ⟨rfl, _⟩ := Prod.mk.inj h
        exact Or.inr (.image hfound hcan hasset hmissing)

theorem perform_failed {operation : Operation} (h : i.perform d operation = (after, .error e)) :
    after = d ∨ Residue i d operation after := by
  cases operation with
  | testConnection => exact Or.inl (Prod.mk.inj h).1.symm
  | createPage name slug =>
      -- Creating a page cannot fail.
      obtain ⟨next, receipt, hok⟩ := createPage_ok name.text slug d
      have hok : i.perform d (.createPage name slug) = (next, .ok receipt) := hok
      rw [hok] at h
      cases h
  | buildTree parent tree => exact Or.inl (buildTree_failed h)
  | setText target text => exact Or.inl (setText_failed h)
  | applyStyle style targets => exact Or.inr (applyStyle_failed h)
  | addImage parent asset alt => exact addImage_failed h

/-- What is left behind is left behind by a failure. -/
theorem Residue.perform {operation : Operation} (h : Residue i d operation after) :
    ∃ e, i.perform d operation = (after, .error e) := by
  cases h with
  | @image reference asset alt parent id hparent hcan hasset hmissing =>
      refine ⟨.refused (.assetNotFound id), ?_⟩
      show addImage i.key reference asset alt d = _
      unfold addImage
      rw [hparent]
      dsimp only
      have hfilter : (some parent).filter (·.can .children) = some parent := by
        simp [Option.filter, hcan]
      rw [hfilter]
      dsimp only
      rw [attach_ok d (preset .image) hcan]
      dsimp only
      rw [fillImage_missing _ (d := d.attached parent (preset .image)) alt hasset hmissing]
  | @style spec targets htargets hroot =>
      have hdefined : (defineStyle spec d).root? = none := by rw [root?_defineStyle, hroot]
      exact ⟨_, styleTargets_noRoot i.key spec.name.text htargets 0 [] hdefined⟩

/-! ## Single steps and whole batches -/

theorem step_failed {instruction : Instruction}
    (h : (i.step d instruction).2.success = false) :
    (i.step d instruction).1 = d ∨ i.Leaves d instruction (i.step d instruction).1 := by
  unfold step at h ⊢
  cases hoperation : instruction.operation with
  | error e => exact Or.inl rfl
  | ok operation =>
      rw [hoperation] at h
      dsimp only at h ⊢
      cases hperform : i.perform d operation with
      | mk next outcome =>
          rw [hperform] at h
          cases outcome with
          | ok receipt => cases h
          | error e =>
              obtain hsame | hresidue := perform_failed hperform
              · exact Or.inl hsame
              · exact Or.inr ⟨operation, hoperation, hresidue⟩

theorem Leaves.step {instruction : Instruction} (h : i.Leaves d instruction after) :
    (i.step d instruction).2.success = false ∧ (i.step d instruction).1 = after := by
  obtain ⟨operation, hoperation, hresidue⟩ := h
  obtain ⟨e, he⟩ := hresidue.perform
  unfold Interpreter.step
  rw [hoperation]
  dsimp only
  rw [he]
  exact ⟨rfl, rfl⟩

end

/-- The instructions of a batch that succeed when it runs. -/
def succeeding (i : Interpreter) (d : Document) : List Instruction → List Instruction
  | [] => []
  | instruction :: rest =>
    let (after, result) := i.step d instruction
    if result.success then instruction :: succeeding i after rest else succeeding i after rest

/-- Whether no instruction of a batch leaves anything behind by failing. -/
def Traceless (i : Interpreter) (d : Document) : List Instruction → Prop
  | [] => True
  | instruction :: rest =>
    (∀ after, ¬ i.Leaves d instruction after) ∧ Traceless i (i.step d instruction).1 rest

theorem run_cons (i : Interpreter) (d : Document) (instruction : Instruction)
    (rest : List Instruction) :
    i.run d (instruction :: rest) =
      ((i.run (i.step d instruction).1 rest).1,
        (i.step d instruction).2 :: (i.run (i.step d instruction).1 rest).2) := rfl

theorem run_succeeding (i : Interpreter) {d : Document} {batch : List Instruction}
    (h : i.Traceless d batch) :
    i.run d (i.succeeding d batch) =
      ((i.run d batch).1, (i.run d batch).2.filter (·.success)) := by
  induction batch generalizing d with
  | nil => rfl
  | cons instruction rest ih =>
      obtain ⟨hleaves, hrest⟩ := h
      have hih := ih hrest
      unfold succeeding
      rw [run_cons]
      dsimp only
      cases hsuccess : (i.step d instruction).2.success with
      | true =>
          rw [if_pos rfl, run_cons, hih, List.filter_cons_of_pos hsuccess]
      | false =>
          -- The step is dropped from the batch, so it must not have changed the document.
          have hsame : (i.step d instruction).1 = d := by
            obtain hsame | hleft := step_failed hsuccess
            · exact hsame
            · exact absurd hleft (hleaves _)
          have hnot : ¬ (i.step d instruction).2.success = true := Bool.eq_false_iff.mp hsuccess
          rw [hsame] at hih ⊢
          rw [if_neg Bool.false_ne_true, hih, List.filter_cons_of_neg hnot]

/-- An operation that is recorded as failed leaves the document as it was, unless it is one of two:
an image for an asset that does not exist stays in place, without an asset, and a style stays
defined when the page has no root on which to look for its elements. These two do so whenever they
come. In a batch in which neither comes, deleting the failing operations changes neither the
document at the end nor the results of the others. -/
theorem failed_operations_leave_no_trace (i : Interpreter) (d : Document) :
    (∀ instruction, (i.step d instruction).2.success = false →
      (i.step d instruction).1 = d ∨ i.Leaves d instruction (i.step d instruction).1) ∧
    (∀ instruction after, i.Leaves d instruction after →
      (i.step d instruction).2.success = false ∧ (i.step d instruction).1 = after) ∧
    ∀ batch, i.Traceless d batch →
      i.run d (i.succeeding d batch) =
        ((i.run d batch).1, (i.run d batch).2.filter (·.success)) :=
  ⟨fun _ => step_failed, fun _ _ => Leaves.step, fun _ => run_succeeding i⟩

/-- A failing operation between two others is deleted without a trace. -/
theorem failed_operations_leave_no_trace_between :
    (⟨"data-oid", .int 0⟩ : Interpreter).run .fresh
        [.ready (.createPage ⟨"About", by decide, by decide⟩ none), .ready .testConnection] =
      (((⟨"data-oid", .int 0⟩ : Interpreter).run .fresh
          [.ready (.createPage ⟨"About", by decide, by decide⟩ none),
            .ready (.setText ⟨⟨"title", by decide, by decide⟩, none⟩ "Hello"),
              .ready .testConnection]).1,
        ((⟨"data-oid", .int 0⟩ : Interpreter).run .fresh
          [.ready (.createPage ⟨"About", by decide, by decide⟩ none),
            .ready (.setText ⟨⟨"title", by decide, by decide⟩, none⟩ "Hello"),
              .ready .testConnection]).2.filter
          (·.success)) := by
  refine (failed_operations_leave_no_trace ⟨"data-oid", .int 0⟩ .fresh).2.2
    [.ready (.createPage ⟨"About", by decide, by decide⟩ none),
      .ready (.setText ⟨⟨"title", by decide, by decide⟩, none⟩ "Hello"), .ready .testConnection] ?_
  refine ⟨?_, ?_, ?_, trivial⟩
  · rintro after ⟨operation, ⟨⟩, hresidue⟩
    cases hresidue
  · rintro after ⟨operation, ⟨⟩, hresidue⟩
    cases hresidue
  · rintro after ⟨operation, ⟨⟩, hresidue⟩
    cases hresidue

/-- The two operations that leave something behind: an image for an asset that does not exist, in a
gallery that does, and a style for an element of a page without a root. -/
theorem failed_operations_leave_traces :
    let i : Interpreter := ⟨"data-oid", .int 0⟩
    let gallery := (i.step .fresh (.raw (.object [("op", .text "BUILD_TREE"),
      ("parent", .text "root"),
      ("tree", .object [("tag", .text "div"), ("oid", .text "gallery")])]))).1
    let image : Instruction := .raw (.object [("op", .text "ADD_IMAGE"),
      ("parentOid", .text "gallery"), ("asset", .object [("byId", .text "nope")])])
    let bare := (Document.fresh.replaceRoot none).1
    let style : Instruction := .raw (.object [("op", .text "APPLY_STYLE"),
      ("style", .object [("name", .text "Wide"), ("properties", .object [])]),
      ("oids", .list [.text "title"])])
    ((i.step gallery image).2.success = false ∧ (i.step gallery image).1 ≠ gallery) ∧
      (i.step bare style).2.success = false ∧ (i.step bare style).1 ≠ bare := by
  refine ⟨⟨by decide +kernel, fun hsame => ?_⟩, by decide +kernel, fun hsame => ?_⟩
  · have hcount := congrArg Document.nextElement hsame
    revert hcount
    decide +kernel
  · have hstyles := congrArg (fun d => d.styles.keys) hsame
    revert hstyles
    decide +kernel

end DesignBridge.Interpreter
