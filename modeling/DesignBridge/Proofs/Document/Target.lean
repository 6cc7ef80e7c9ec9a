import DesignBridge.Proofs.Document.Frame

/-! # What references lead to

A reference leads to an element that can hold attributes, so it can be styled, and it is no text
child. An operation on texts looks at what the element shows itself and at its first text child, and
only a text of the element itself that is set can change which of the two it writes.
-/

namespace DesignBridge

theorem Facet.id_only {id : Nat} {f : Facet → Facet} (hf : ∀ facet, (f facet).id = facet.id)
    (facet : Facet) : (only id f facet).id = facet.id := by
  unfold only
  split
  next => exact hf facet
  next => rfl

namespace Element

/-- Whether an element shows a text of its own. -/
def showsText (e : Element) : Bool :=
  e.can .text && (Sketch.nonempty? e.facet.text).isSome

/-- The first text among the children of an element. -/
def textChild? (e : Element) : Option Element :=
  e.children.find? (·.kind = .text)

section

variable {edit : Facet → Facet}

theorem textChild?_revise (hedit : Facet.Revises edit) (e : Element) :
    (e.revise edit nothing).textChild? = e.textChild?.map (Element.revise edit nothing) := by
  unfold textChild?
  rw [revise_children_nothing, List.find?_map]
  simp only [Function.comp_def, kind_revise hedit.kind]

theorem showsText_revise (hedit : Facet.Revises edit) {e : Element}
    (htext : (edit e.facet).text = e.facet.text) :
    (e.revise edit nothing).showsText = e.showsText := by
  unfold showsText
  rw [can_revise hedit.kind, revise_facet, htext]

theorem kind_of_textChild? {e child : Element} (h : e.textChild? = some child) :
    child.kind = .text :=
  of_decide_eq_true (List.find?_some (p := fun child : Element => decide (child.kind = .text)) h)

theorem mem_of_textChild? {e child : Element} (h : e.textChild? = some child) :
    child ∈ e.children :=
  List.mem_of_find?_eq_some h

end

end Element

namespace Document

open Element (nothing)

variable {d : Document} {key oid : Runes} {selector : Option Runes} {e : Element}

/-- A document in which the text of the element with a number is set. -/
def worded (d : Document) (id : Nat) (text : Runes) : Document :=
  d.modifyFacet id ({ · with text := some text })

theorem worded_eq_revise (h : (d.everything.map (·.id)).Nodup) (id : Nat) (text : Runes) :
    d.worded id text = d.revise (Facet.only id ({ · with text := some text })) nothing :=
  modifyFacet_eq_revise id _ h

/-- Numbers stay distinct when texts and styles are set. -/
theorem distinct_revise {edit : Facet → Facet} (hedit : Facet.Revises edit)
    (h : (d.everything.map (·.id)).Nodup) :
    ((d.revise edit nothing).everything.map (·.id)).Nodup := by
  rwa [ids_revise_nothing hedit.id]

theorem kind_of_carries (h : carries key oid e = true) : e.kind = .dom ∨ e.kind = .image := by
  have hcan : e.kind.can .attributes = true := (Bool.and_eq_true_iff.mp h).1
  revert hcan
  cases e.kind <;> decide

theorem kind_of_narrow {segment : Runes} {layer : List Element} (h : e ∈ narrow segment layer) :
    e.kind = .dom := by
  obtain ⟨parent, _, hmem⟩ := List.mem_flatMap.mp h
  have hfits := (List.mem_filter.mp hmem).2
  exact of_decide_eq_true (Bool.and_eq_true_iff.mp hfits).1

theorem kind_of_follow {layer : List Element} {segments : List Runes}
    (hlayer : ∀ a ∈ layer, a.kind = .dom ∨ a.kind = .image) (h : e ∈ follow layer segments) :
    e.kind = .dom ∨ e.kind = .image := by
  induction segments generalizing layer with
  | nil => exact hlayer e h
  | cons segment rest ih => exact ih (fun a ha => Or.inl (kind_of_narrow ha)) h

/-- What a reference leads to can hold attributes. -/
theorem kind_of_resolve (h : d.resolve key oid selector = .ok (some e)) :
    e.kind = .dom ∨ e.kind = .image := by
  obtain ⟨root, hroot, _⟩ := resolve_mem h
  have htagged : ∀ a ∈ root.preorder.filter (carries key oid), a.kind = .dom ∨ a.kind = .image :=
    fun a ha => kind_of_carries (List.mem_filter.mp ha).2
  rw [resolve_of_root hroot] at h
  have hfound := Except.ok.inj h
  split at hfound
  next => exact htagged e (List.mem_of_head? hfound)
  next => exact kind_of_follow htagged (List.mem_of_head? hfound)

theorem can_styles_of_resolve (h : d.resolve key oid selector = .ok (some e)) :
    e.can .styles = true := by
  unfold Element.can
  rcases kind_of_resolve h with hkind | hkind
  · rw [hkind]; rfl
  · rw [hkind]; rfl

theorem kind_ne_text_of_resolve (h : d.resolve key oid selector = .ok (some e)) :
    e.kind ≠ .text := by
  rcases kind_of_resolve h with hkind | hkind
  · rw [hkind]; decide
  · rw [hkind]; decide

/-! ## Where a reference leads -/

section

variable {target : Reference} {edit : Facet → Facet}

/-- What a reference leads to, if it leads anywhere. -/
def led? (d : Document) (key : Runes) (target : Reference) : Option Element :=
  (d.resolve key target.oid.text target.selector).toOption.join

theorem led?_of_resolve {found : Option Element}
    (h : d.resolve key target.oid.text target.selector = .ok found) :
    d.led? key target = found := by
  unfold led?
  rw [h]
  cases found <;> rfl

theorem resolve_of_led? (h : d.led? key target = some e) :
    d.resolve key target.oid.text target.selector = .ok (some e) := by
  unfold led? at h
  cases hfound : d.resolve key target.oid.text target.selector with
  | error reason =>
      rw [hfound] at h
      cases h
  | ok found =>
      rw [hfound] at h
      obtain rfl : found = some e := Option.some.inj (Option.join_eq_some_iff.mp h)
      rfl

/-- A reference leads to the same place after texts and styles were set. -/
theorem led?_revise (hedit : Facet.Revises edit) (key : Runes) (target : Reference) :
    (d.revise edit nothing).led? key target =
      (d.led? key target).map (Element.revise edit nothing) := by
  unfold led?
  rw [resolve_revise hedit]
  cases d.resolve key target.oid.text target.selector with
  | error reason => rfl
  | ok found => cases found <;> rfl

theorem led?_mem (h : d.led? key target = some e) : e ∈ d.everything :=
  mem_everything_of_mem_elements (resolve_mem_elements (resolve_of_led? h))

theorem led?_kind (h : d.led? key target = some e) : e.kind ≠ .text :=
  kind_ne_text_of_resolve (resolve_of_led? h)

theorem led?_child_mem {child : Element} (h : d.led? key target = some e)
    (hchild : child ∈ e.children) : child ∈ d.everything := by
  obtain ⟨tree, htree, he⟩ := mem_everything.mp (led?_mem h)
  exact mem_everything.mpr ⟨tree, htree, Element.mem_preorder_of_mem_children he hchild⟩

end

end Document

namespace Interpreter

open Document
open Element (nothing)

theorem textTarget?_eq (target : Element) :
    textTarget? target =
      if target.showsText then some target
      else if target.can .children then target.textChild? else none := by
  have hfilter : (fun child : Element => child.kind = .text && child.can .text) =
      fun child => decide (child.kind = .text) := by
    funext child
    by_cases hkind : child.kind = .text
    · simp [hkind, Element.can, ElementKind.can]
    · simp [hkind]
  unfold textTarget? Element.textChild?
  rw [hfilter]
  rfl

/-- An instruction that stands for an operation does what the operation does. -/
theorem step_eq (i : Interpreter) (d : Document) {x : Instruction} {operation : Operation}
    (h : x.operation = .ok operation) :
    i.step d x = ((i.perform d operation).1, resultOf x.name (i.perform d operation).2) := by
  unfold step
  rw [h]

/-- The element whose text is set for a reference, or why there is none. -/
def written (key : Runes) (target : Reference) (d : Document) : Except Failure Element :=
  match d.resolve key target.oid.text target.selector with
  | .error e => .error (.refused e)
  | .ok none => .error (.targetNotFound target.oid.text)
  | .ok (some found) => match textTarget? found with
    | none => .error (.noTextTarget target.oid.text)
    | some e => .ok e

section

variable {d : Document} {edit : Facet → Facet} {key : Runes} {target : Reference}

theorem written_of_resolve {found : Element}
    (h : d.resolve key target.oid.text target.selector = .ok (some found)) :
    written key target d = match textTarget? found with
      | none => .error (.noTextTarget target.oid.text)
      | some e => .ok e := by
  unfold written
  rw [h]

theorem written_eq_ok {e : Element} (h : written key target d = .ok e) :
    ∃ found, d.resolve key target.oid.text target.selector = .ok (some found) ∧
      textTarget? found = some e := by
  unfold written at h
  split at h
  next => cases h
  next => cases h
  next found hfound =>
    refine ⟨found, hfound, ?_⟩
    split at h
    next => cases h
    next e' he' =>
      obtain rfl := Except.ok.inj h
      exact he'

/-- An operation on texts is over once it is known which text it sets. -/
theorem setText_eq (key : Runes) (target : Reference) (text : Runes) (d : Document) :
    setText key target text d = match written key target d with
      | .ok e => (d.worded e.id text, .ok (.textSet target.oid.text text))
      | .error e => (d, .error e) := by
  unfold setText written
  cases d.resolve key target.oid.text target.selector with
  | error e => rfl
  | ok found =>
      cases found with
      | none => rfl
      | some found =>
          dsimp only
          cases he : textTarget? found with
          | none => rfl
          | some e =>
              dsimp only
              rw [setText_ok d text (textTarget?_can he)]
              rfl

theorem textTarget?_revise (hedit : Facet.Revises edit) {e : Element}
    (htext : (edit e.facet).text = e.facet.text) :
    textTarget? (e.revise edit nothing) =
      (textTarget? e).map (Element.revise edit nothing) := by
  rw [textTarget?_eq, textTarget?_eq, Element.showsText_revise hedit htext,
    Element.can_revise hedit.kind, Element.textChild?_revise hedit]
  split
  next => rfl
  next => split <;> rfl

/-- Texts and styles that are set elsewhere do not change which text is set for a reference. -/
theorem written_revise (hedit : Facet.Revises edit)
    (htext : ∀ found, d.resolve key target.oid.text target.selector = .ok (some found) →
      (edit found.facet).text = found.facet.text) :
    written key target (d.revise edit nothing) =
      (written key target d).map (Element.revise edit nothing) := by
  unfold written
  rw [resolve_revise hedit]
  cases hfound : d.resolve key target.oid.text target.selector with
  | error e => rfl
  | ok found =>
      cases found with
      | none => rfl
      | some found =>
          have htarget := textTarget?_revise hedit (htext found hfound)
          dsimp only [Except.map, Option.map]
          rw [htarget]
          cases textTarget? found <;> rfl

end

end Interpreter

end DesignBridge
