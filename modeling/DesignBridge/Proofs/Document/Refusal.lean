import DesignBridge.Proofs.Document.Asking
import DesignBridge.Proofs.Document.Batch
import DesignBridge.Proofs.Document.Instruction
import DesignBridge.Proofs.Document.Target

/-! # Why operations fail

On a page with a root an operation fails for one of a few reasons, each a condition on the document
and the operation, and it fails just if one of them is there. None of them is a call that the
document refuses for the kind of an element or for a page: the operations look first at what an
element can do, and they go to pages that they have made themselves.
-/

namespace DesignBridge

namespace Failure

/-- Whether a failure is a call on an element or a page that the document refuses. -/
def isDenial : Failure → Bool
  | refused (.unsupported ..) => true
  | refused (.childless _) => true
  | refused (.unknownPage _) => true
  | _ => false

theorem first_letter_of_isDenial {e : Failure} (h : e.isDenial = true) :
    ∃ c ∈ ['B', 'D', 'S', 'I', 'U'], e.message.list[0]? = some (.char c) := by
  cases e with
  | refused error =>
      cases error with
      | unsupported kind capability =>
          cases kind <;>
            exact ⟨_, by decide, getElem?_list_append _ (getElem?_list_append _ rfl)⟩
      | childless kind => cases kind <;> exact ⟨_, by decide, rfl⟩
      | unknownPage number => exact ⟨'U', by decide, getElem?_list_append _ rfl⟩
      | assetNotFound | noRoot => cases h
  | _ => cases h

theorem first_letter_of_not_isDenial {e : Failure} (h : e.isDenial = false)
    (hread : e.isMalformed = false) :
    ∃ c ∈ ['N', 'E', 'C', 'P', 'c', 'A', '\''], e.message.list[0]? = some (.char c) := by
  cases e with
  | unknownOperation | invalidOperation => cases hread
  | noValidParent => exact ⟨'N', by decide, rfl⟩
  | targetNotFound oid =>
      exact ⟨'E', by decide, getElem?_list_append _ (getElem?_list_append _ rfl)⟩
  | noTextTarget oid => exact ⟨'C', by decide, getElem?_list_append _ rfl⟩
  | parentNotFound oid =>
      exact ⟨'P', by decide, getElem?_list_append _ (getElem?_list_append _ rfl)⟩
  | unreadableClock infinite => cases infinite <;> exact ⟨'c', by decide, rfl⟩
  | refused error =>
      cases error with
      | unsupported | childless | unknownPage => cases h
      | assetNotFound id =>
          exact ⟨'A', by decide, getElem?_list_append _ (getElem?_list_append _ rfl)⟩
      | noRoot => exact ⟨'\'', by decide, rfl⟩

theorem isMalformed_of_isDenial {e : Failure} (h : e.isDenial = true) : e.isMalformed = false := by
  cases e with
  | unknownOperation | invalidOperation => cases h
  | _ => rfl

/-- No other failure is worded like a refused call. -/
theorem message_ne_denial {e other : Failure} (he : e.isDenial = false)
    (hother : other.isDenial = true) : e.message ≠ other.message := by
  cases hread : e.isMalformed with
  | true => exact (message_ne hread (isMalformed_of_isDenial hother)).symm
  | false =>
      intro heq
      obtain ⟨c, hc, hfirst⟩ := first_letter_of_not_isDenial he hread
      obtain ⟨c', hc', hfirst'⟩ := first_letter_of_isDenial hother
      rw [heq, hfirst'] at hfirst
      obtain rfl := Rune.char.inj (Option.some.inj hfirst)
      have hapart : ∀ c ∈ ['B', 'D', 'S', 'I', 'U'], c ∉ ['N', 'E', 'C', 'P', 'c', 'A', '\''] := by
        simp
      exact hapart c' hc' hc

end Failure

namespace Document

variable {d : Document}

theorem root?_isSome (h : d.WellFormed) (hroot : d.Rooted) : d.root?.isSome = true := by
  obtain ⟨page, hpage, hcurrent⟩ := h.current
  have hfound : (d.page? d.current).isSome = true :=
    List.find?_isSome.mpr ⟨page, hpage, beq_iff_eq.mpr hcurrent⟩
  obtain ⟨current, hthere⟩ := Option.isSome_iff_exists.mp hfound
  obtain ⟨root, hroot⟩ := hroot current (List.mem_of_find?_eq_some hthere)
  unfold root?
  rw [hthere, Option.bind_some, hroot]
  rfl

end Document

namespace Interpreter

open Document

/-- Why an operation fails on a page with a root. -/
inductive Fault (i : Interpreter) (d : Document) : Operation → Failure → Prop
  /-- The clock shows a time that in milliseconds is no number, or an infinite one. -/
  | clock {x : Float} (hclock : i.clock = .real x) (htime : Binary.ofFloat? (x * 1000.0) = none) :
      Fault i d .testConnection (.unreadableClock (!x.isNaN))
  /-- Neither what is selected, if it was asked for, nor the root holds children. -/
  | parent {choice : ParentChoice} {tree : Node}
      (hselected : choice = .selected → ∀ e, d.selection? = some e → e.can .children = false)
      (hroot : ∀ root, d.root? = some root → root.can .children = false) :
      Fault i d (.buildTree choice tree) .noValidParent
  | target {target : Reference} {text : Runes} (h : d.led? i.key target = none) :
      Fault i d (.setText target text) (.targetNotFound target.oid.text)
  | text {target : Reference} {text : Runes} {e : Element} (h : d.led? i.key target = some e)
      (hown : e.showsText = false) (hchild : e.textChild? = none) :
      Fault i d (.setText target text) (.noTextTarget target.oid.text)
  | holder {parent : Reference} {asset : Option AssetRef} {alt : Option Runes}
      (h : ∀ e, d.led? i.key parent = some e → e.can .children = false) :
      Fault i d (.addImage parent asset alt) (.parentNotFound parent.oid.text)
  | asset {parent : Reference} {asset : Option AssetRef} {alt : Option Runes} {e : Element}
      {id : Runes} (h : d.led? i.key parent = some e) (hcan : e.can .children = true)
      (hasset : Sketch.nonempty? (asset.bind (·.id)) = some id)
      (hmissing : d.assets.get? id = none) :
      Fault i d (.addImage parent asset alt) (.refused (.assetNotFound id))

section

variable {i : Interpreter} {d : Document} {e : Failure}

/-! ## One operation at a time -/

theorem timestamp_eq_error_iff {clock : Number} :
    timestamp clock = .error e ↔ ∃ x, clock = .real x ∧ Binary.ofFloat? (x * 1000.0) = none ∧
      e = .unreadableClock (!x.isNaN) := by
  unfold timestamp
  cases clock with
  | int n => simp
  | real x =>
      dsimp only
      cases htime : Binary.ofFloat? (x * 1000.0) with
      | some b => simp [htime]
      | none => simp [htime, eq_comm]

theorem parentFor_eq_error_iff {choice : ParentChoice} :
    parentFor choice d = .error e ↔
      (choice = .selected → ∀ s, d.selection? = some s → s.can .children = false) ∧
      (∀ root, d.root? = some root → root.can .children = false) ∧ e = .noValidParent := by
  have hnone : ∀ found : Option Element, found.filter (·.can .children) = none ↔
      ∀ a, found = some a → a.can .children = false := by
    intro found
    simp [Option.filter_eq_none_iff]
  have hselected : (if choice = .selected then d.selection?.filter (·.can .children) else none) =
      none ↔ (choice = .selected → ∀ s, d.selection? = some s → s.can .children = false) := by
    split
    next h => simp [h, hnone]
    next h => simp [h]
  unfold parentFor
  dsimp only
  split
  next a ha =>
    rw [← hselected, ha]
    simp
  next hno =>
    rw [← hselected, hno, ← hnone]
    cases d.root?.filter (·.can .children) with
    | some root => simp
    | none => simp [eq_comm]

theorem buildTree_eq_error_iff {key : Runes} {choice : ParentChoice} {tree : Node} :
    (buildTree key choice tree d).2 = .error e ↔ parentFor choice d = .error e := by
  unfold buildTree
  cases hparent : parentFor choice d with
  | error failure => simp
  | ok parent =>
      dsimp only
      rw [attach_ok d (Sketch.ofNode key tree) (parentFor_can hparent)]
      simp

/-- An element that shows no text and has no text child has no text to set. -/
theorem textTarget?_eq_none_iff (hd : d.WellFormed) {target : Element} (h : target ∈ d.everything) :
    textTarget? target = none ↔ target.showsText = false ∧ target.textChild? = none := by
  rw [textTarget?_eq]
  cases hshows : target.showsText with
  | true => simp
  | false =>
      cases hcan : target.can .children with
      | true => simp
      | false =>
          have hchildren : target.children = [] := by
            by_contra hne
            rw [hd.capable target h hne] at hcan
            cases hcan
          simp [Element.textChild?, hchildren]

theorem setText_eq_error_iff {key : Runes} {target : Reference} {text : Runes} :
    (setText key target text d).2 = .error e ↔ written key target d = .error e := by
  rw [setText_eq]
  cases written key target d with
  | error failure => simp
  | ok a => simp

theorem written_eq_error_iff (hd : d.WellFormed) (hroot : d.root?.isSome = true) {key : Runes}
    {target : Reference} : written key target d = .error e ↔
      (d.led? key target = none ∧ e = .targetNotFound target.oid.text) ∨
      ∃ a, d.led? key target = some a ∧ a.showsText = false ∧ a.textChild? = none ∧
        e = .noTextTarget target.oid.text := by
  obtain ⟨found, hfound⟩ := resolve_ok hroot key target.oid.text target.selector
  have hled := led?_of_resolve hfound
  cases found with
  | none =>
      have hwritten : written key target d = .error (.targetNotFound target.oid.text) := by
        unfold written
        rw [hfound]
      rw [hwritten, hled]
      constructor
      · intro h
        exact Or.inl ⟨rfl, (Except.error.inj h).symm⟩
      · rintro (⟨_, rfl⟩ | ⟨a, ha, _⟩)
        · rfl
        · cases ha
  | some a =>
      have hnone := textTarget?_eq_none_iff hd (led?_mem hled)
      rw [written_of_resolve hfound, hled]
      cases htarget : textTarget? a with
      | none =>
          obtain ⟨hshows, hchild⟩ := hnone.mp htarget
          constructor
          · intro h
            exact Or.inr ⟨a, rfl, hshows, hchild, (Except.error.inj h).symm⟩
          · rintro (⟨h, _⟩ | ⟨_, _, _, _, rfl⟩)
            · cases h
            · rfl
      | some b =>
          have hsome : ¬(a.showsText = false ∧ a.textChild? = none) := by
            rw [← hnone, htarget]
            simp
          simp only [reduceCtorEq, false_and, false_or, false_iff, not_exists]
          rintro a' ⟨heq, hshows, hchild, _⟩
          obtain rfl := Option.some.inj heq
          exact hsome ⟨hshows, hchild⟩

theorem addImage_eq_error_iff (hroot : d.root?.isSome = true) {key : Runes} {parent : Reference}
    {asset : Option AssetRef} {alt : Option Runes} :
    (addImage key parent asset alt d).2 = .error e ↔
      ((∀ a, d.led? key parent = some a → a.can .children = false) ∧
        e = .parentNotFound parent.oid.text) ∨
      ∃ a id, d.led? key parent = some a ∧ a.can .children = true ∧
        Sketch.nonempty? (asset.bind (·.id)) = some id ∧ d.assets.get? id = none ∧
        e = .refused (.assetNotFound id) := by
  obtain ⟨found, hfound⟩ := resolve_ok hroot key parent.oid.text parent.selector
  have hled := led?_of_resolve hfound
  unfold addImage
  rw [hfound, hled]
  dsimp only
  cases hholder : found.filter (·.can .children) with
  | none =>
      have hcannot : ∀ a, found = some a → a.can .children = false := by
        simpa [Option.filter_eq_none_iff] using hholder
      dsimp only
      constructor
      · intro h
        exact Or.inl ⟨hcannot, (Except.error.inj h).symm⟩
      · rintro (⟨_, rfl⟩ | ⟨a, id, ha, hcan, _⟩)
        · rfl
        · rw [hcannot a ha] at hcan
          cases hcan
  | some a =>
      obtain ⟨rfl, hcan⟩ := Option.filter_eq_some_iff.mp hholder
      dsimp only
      rw [attach_ok d (preset .image) hcan]
      dsimp only
      have hassets : (d.attached a (preset .image)).assets = d.assets := rfl
      by_cases hthere : ∀ id, Sketch.nonempty? (asset.bind (·.id)) = some id →
          (d.assets.get? id).isSome = true
      · obtain ⟨filled, hfilled⟩ := fillImage_ok ((preset .image).place d.nextElement).1.id
          (d := d.attached a (preset .image)) alt hthere
        rw [hfilled]
        simp only [reduceCtorEq, false_iff, not_or]
        refine ⟨fun h => ?_, ?_⟩
        · rw [h.1 a rfl] at hcan
          cases hcan
        · rintro ⟨_, id, _, _, hasset, hmissing, _⟩
          have hsome := hthere id hasset
          rw [hmissing] at hsome
          cases hsome
      · obtain ⟨id, hid⟩ := Classical.not_forall.mp hthere
        obtain ⟨hasset, hnone⟩ := Classical.not_imp.mp hid
        have hmissing : d.assets.get? id = none := by simpa using hnone
        rw [fillImage_missing _ (d := d.attached a (preset .image)) alt hasset hmissing]
        constructor
        · intro h
          exact Or.inr ⟨a, id, rfl, hcan, hasset, hmissing, (Except.error.inj h).symm⟩
        · rintro (⟨hcannot, _⟩ | ⟨_, id', _, _, hasset', _, rfl⟩)
          · rw [hcannot a rfl] at hcan
            cases hcan
          · rw [hasset] at hasset'
            rw [Option.some.inj hasset']

/-- An operation fails just for such a reason. -/
theorem perform_eq_error_iff (hd : d.WellFormed) (hroot : d.root?.isSome = true)
    (operation : Operation) :
    (i.perform d operation).2 = .error e ↔ Fault i d operation e := by
  cases operation with
  | testConnection =>
      have hperform : (i.perform d .testConnection).2 = (timestamp i.clock).map .connected := rfl
      have herror : (i.perform d .testConnection).2 = .error e ↔ timestamp i.clock = .error e := by
        rw [hperform]
        cases timestamp i.clock <;> simp [Except.map]
      rw [herror, timestamp_eq_error_iff]
      constructor
      · rintro ⟨x, hclock, htime, rfl⟩
        exact .clock hclock htime
      · intro h
        cases h with
        | clock hclock htime => exact ⟨_, hclock, htime, rfl⟩
  | createPage name slug =>
      obtain ⟨after, receipt, hok⟩ := createPage_ok name.text slug d
      have hperform : i.perform d (.createPage name slug) = (after, .ok receipt) := hok
      rw [hperform]
      constructor
      · intro h
        cases h
      · intro h
        cases h
  | buildTree choice tree =>
      refine (buildTree_eq_error_iff.trans parentFor_eq_error_iff).trans ?_
      constructor
      · rintro ⟨hselected, hnone, rfl⟩
        exact .parent hselected hnone
      · intro h
        cases h with
        | parent hselected hnone => exact ⟨hselected, hnone, rfl⟩
  | setText target text =>
      refine (setText_eq_error_iff.trans (written_eq_error_iff hd hroot)).trans ?_
      constructor
      · rintro (⟨h, rfl⟩ | ⟨a, h, hown, hchild, rfl⟩)
        · exact .target h
        · exact .text h hown hchild
      · intro h
        cases h with
        | target h => exact Or.inl ⟨h, rfl⟩
        | text h hown hchild => exact Or.inr ⟨_, h, hown, hchild, rfl⟩
  | applyStyle spec targets =>
      have hdefined : (defineStyle spec d).root?.isSome = true := by rwa [root?_defineStyle]
      obtain ⟨after, receipt, hok⟩ := styleTargets_ok i.key spec.name.text targets 0 [] hdefined
      have hperform : i.perform d (.applyStyle spec targets) = (after, .ok receipt) := hok
      rw [hperform]
      constructor
      · intro h
        cases h
      · intro h
        cases h
  | addImage parent asset alt =>
      refine (addImage_eq_error_iff hroot).trans ?_
      constructor
      · rintro (⟨h, rfl⟩ | ⟨a, id, h, hcan, hasset, hmissing, rfl⟩)
        · exact .holder h
        · exact .asset h hcan hasset hmissing
      · intro h
        cases h with
        | holder h => exact Or.inl ⟨h, rfl⟩
        | asset h hcan hasset hmissing => exact Or.inr ⟨_, _, h, hcan, hasset, hmissing, rfl⟩

theorem Fault.isDenial {operation : Operation} (h : Fault i d operation e) :
    e.isDenial = false := by
  cases h <;> rfl

end

/-! ## Objects that describe operations -/

/-- Why an operation fails that an object describes. -/
inductive Reason (i : Interpreter) (d : Document) (members : Json.Members) : Failure → Prop
  | unknown (h : OperationKind.ofName? (Operation.nameOf (.object members)) = none) :
      Reason i d members (.unknownOperation (Operation.nameOf (.object members)))
  | invalid {kind : OperationKind} {issues : List Issue}
      (hkind : OperationKind.ofName? (Operation.nameOf (.object members)) = some kind)
      (h : Operation.read (.object members) = .rejected issues) :
      Reason i d members (.invalidOperation (Operation.nameOf (.object members)) issues)
  | fault {operation : Operation} {e : Failure}
      (h : Operation.read (.object members) = .accepted operation) (he : Fault i d operation e) :
      Reason i d members e

section

variable {i : Interpreter} {d : Document} {members : Json.Members} {e : Failure}

theorem Reason.isDenial (h : Reason i d members e) : e.isDenial = false := by
  cases h with
  | unknown => rfl
  | invalid => rfl
  | fault _ he => exact he.isDenial

/-- An operation that an object describes fails with what is said of its reason. -/
theorem Reason.step (h : Reason i d members e) (hd : d.WellFormed) (hroot : d.Rooted) :
    (i.step d (.raw (.object members))).2 =
      resultOf (Operation.nameOf (.object members)) (.error e) := by
  cases h with
  | unknown h =>
      unfold Interpreter.step Instruction.operation
      dsimp only
      rw [h]
      rfl
  | invalid hkind h =>
      unfold Interpreter.step Instruction.operation
      dsimp only
      rw [hkind, h]
      rfl
  | fault h he =>
      have hperform := (perform_eq_error_iff hd (root?_isSome hd hroot) _).mpr he
      rw [step_eq i d (Instruction.operation_raw_iff.mpr h), hperform]
      rfl

/-- It does not fail without one. -/
theorem reason_of_step (hd : d.WellFormed) (hroot : d.Rooted)
    (h : (i.step d (.raw (.object members))).2.success = false) :
    ∃ e, Reason i d members e := by
  cases hkind : OperationKind.ofName? (Operation.nameOf (.object members)) with
  | none => exact ⟨_, .unknown hkind⟩
  | some kind =>
      cases hread : Operation.read (.object members) with
      | rejected issues => exact ⟨_, .invalid hkind hread⟩
      | accepted operation =>
          rw [step_eq i d (Instruction.operation_raw_iff.mpr hread)] at h
          cases houtcome : (i.perform d operation).2 with
          | ok receipt =>
              rw [houtcome] at h
              cases h
          | error e =>
              have he := (perform_eq_error_iff hd (root?_isSome hd hroot) operation).mp houtcome
              exact ⟨e, .fault hread he⟩

/-- The error of an operation that an object describes is not worded like a refused call. -/
theorem error_step_ne_denial (hd : d.WellFormed) (hroot : d.Rooted) (he : e.isDenial = true) :
    (i.step d (.raw (.object members))).2.error ≠ some e.message := by
  intro heq
  cases hsuccess : (i.step d (.raw (.object members))).2.success with
  | true =>
      have hnone : (i.step d (.raw (.object members))).2.error = none :=
        (success_resultOf_iff _ _).mp hsuccess
      rw [hnone] at heq
      cases heq
  | false =>
      obtain ⟨failure, hreason⟩ := reason_of_step hd hroot hsuccess
      rw [hreason.step hd hroot] at heq
      exact Failure.message_ne_denial hreason.isDenial he (Option.some.inj heq)

/-- Nor is any error in a batch of them. -/
theorem error_run_ne_denial (hd : d.WellFormed) (hroot : d.Rooted) (batch : List Json.Members)
    (he : e.isDenial = true) :
    ∀ result ∈ (i.run d (batch.map fun members => .raw (.object members))).2,
      result.error ≠ some e.message := by
  induction batch generalizing d with
  | nil => exact fun _ hmem => nomatch hmem
  | cons members rest ih =>
      obtain ⟨hwell, hrooted⟩ := step_wellFormed (i := i) ⟨hd, hroot⟩ (.raw (.object members))
      rw [List.map_cons, run_cons]
      intro result hmem
      rcases List.mem_cons.mp hmem with rfl | hmem
      · exact error_step_ne_denial hd hroot he
      · exact ih hwell hrooted result hmem

end

/-- In a well-formed document whose pages have roots, an operation that an object describes fails
just if there is a reason, and the error says which: the operation is unknown or invalid, there is
no parent, no target, no text to set or no holder for an image, the asset does not exist, or the
clock shows no finite number of milliseconds. No error of a batch is worded like a call that the
document refuses, for an element that cannot do something or for a page. References are followed,
texts are found and trees are sketched by calls that are not refused either. -/
theorem failures_explained (i : Interpreter) {d : Document} (hd : d.WellFormed) (hroot : d.Rooted) :
    (∀ members : Json.Members,
      ((i.step d (.raw (.object members))).2.success = false ↔ ∃ e, Reason i d members e) ∧
      ∀ e, Reason i d members e → (i.step d (.raw (.object members))).2 =
        ⟨Operation.nameOf (.object members), false, .null, some e.message⟩) ∧
    (∀ batch : List Json.Members,
      ∀ result ∈ (i.run d (batch.map fun members => .raw (.object members))).2,
        (∀ kind capability,
          result.error ≠ some (DesignError.unsupported kind capability).message) ∧
        (∀ kind, result.error ≠ some (DesignError.childless kind).message) ∧
        ∀ number, result.error ≠ some (DesignError.unknownPage number).message) ∧
    (∀ oid selector, d.askResolve i.key oid selector = d.resolve i.key oid selector) ∧
    (∀ target, askTextTarget target = .ok (textTarget? target)) ∧
    ∀ node, Sketch.build i.key node = .ok (Sketch.ofNode i.key node) := by
  refine ⟨fun members => ⟨⟨reason_of_step hd hroot, ?_⟩, fun e he => he.step hd hroot⟩,
    fun batch result hmem => ⟨fun kind capability => ?_, fun kind => ?_, fun number => ?_⟩,
    askResolve_eq d i.key, askTextTarget_eq, Sketch.build_eq i.key⟩
  · rintro ⟨e, he⟩
    rw [he.step hd hroot]
    rfl
  · have he : (Failure.refused (.unsupported kind capability)).isDenial = true := rfl
    exact error_run_ne_denial hd hroot batch he result hmem
  · have he : (Failure.refused (.childless kind)).isDenial = true := rfl
    exact error_run_ne_denial hd hroot batch he result hmem
  · have he : (Failure.refused (.unknownPage number)).isDenial = true := rfl
    exact error_run_ne_denial hd hroot batch he result hmem

/-- A card that shows no text, and an image for it whose asset does not exist. -/
theorem failures_explained_card :
    let i : Interpreter := ⟨"data-oid", .int 0⟩
    let card : Node := ⟨⟨"div", by decide, by decide⟩, some "card", none, none, none, none⟩
    let d := (i.run .fresh [.ready (.buildTree .root card)]).1
    let words : Json.Members := [("op", .text "SET_TEXT_BY_OID"), ("oid", .text "card"),
      ("text", .text "Hello")]
    let image : Json.Members := [("op", .text "ADD_IMAGE"), ("parentOid", .text "card"),
      ("asset", .object [("byId", .text "nope")])]
    d.WellFormed ∧ d.Rooted ∧
      (∃ e, Reason i d words e ∧
        e.message = "Could not set text content on element with OID card") ∧
      (∃ e, Reason i d image e ∧ e.message = "Asset nope not found") ∧
      ∀ result ∈ (i.run d [.raw (.object words), .raw (.object image)]).2,
        result.error ≠ some ↑"DOM element does not support image" := by
  intro i card d words image
  obtain ⟨hwell, hrooted⟩ : d.WellFormed ∧ d.Rooted :=
    run_wellFormed (Reachable.wellFormed .fresh) _
  obtain ⟨hsteps, hbatches, -⟩ := failures_explained i hwell hrooted
  obtain ⟨e, he⟩ := (hsteps words).1.mp (by decide +kernel)
  obtain ⟨e', he'⟩ := (hsteps image).1.mp (by decide +kernel)
  have hwords : (i.step d (.raw (.object words))).2.error =
      some ↑"Could not set text content on element with OID card" := by decide +kernel
  have himage : (i.step d (.raw (.object image))).2.error = some ↑"Asset nope not found" := by
    decide +kernel
  rw [(hsteps words).2 e he] at hwords
  rw [(hsteps image).2 e' he'] at himage
  exact ⟨hwell, hrooted, ⟨e, he, Option.some.inj hwords⟩, ⟨e', he', Option.some.inj himage⟩,
    fun result hmem => (hbatches [words, image] result hmem).1 .dom .image⟩

/-- The clock shows a finite number of seconds, but in milliseconds it is too large for a double. -/
theorem connection_fails_on_finite_clock :
    let i : Interpreter := ⟨"data-oid", .real 1e306⟩
    let result := (i.step .fresh (.raw (.object [("op", .text "TEST_CONNECTION")]))).2
    (Document.fresh.WellFormed ∧ Document.fresh.Rooted) ∧ i.clock.toRat?.isSome = true ∧
      result.success = false ∧ result.error = some ↑"cannot convert float infinity to integer" :=
  ⟨Reachable.wellFormed .fresh, by decide +kernel⟩

end Interpreter

end DesignBridge
