import DesignBridge.Document.Execute

/-! # Calls that are granted

When the calls on a document succeed, and what they keep. A call on an element is refused only for a
capability that its kind lacks; looking for elements fails only on a page without a root.
-/

namespace DesignBridge

namespace Document

theorem need_ok {e : Element} {capability : Capability} (h : e.can capability = true) :
    need e capability = .ok () := by
  simp [need, h]

/-- The document after a sketch was put into an element. -/
def attached (d : Document) (parent : Element) (sketch : Sketch) : Document :=
  { d.modifyElement parent.id (·.append (sketch.place d.nextElement).1) with
    nextElement := (sketch.place d.nextElement).2 }

theorem attach_ok (d : Document) {parent : Element} (sketch : Sketch)
    (h : parent.can .children = true) :
    d.attach parent sketch =
      .ok (d.attached parent sketch, (sketch.place d.nextElement).1.id) := by
  unfold attach
  rw [need_ok h]
  rfl

theorem setText_ok (d : Document) {e : Element} (text : Runes) (h : e.can .text = true) :
    d.setText e text = .ok (d.modifyFacet e.id ({ · with text := some text })) := by
  unfold setText
  rw [need_ok h]
  rfl

theorem setStyles_ok (d : Document) {e : Element} (names : List Runes)
    (h : e.can .styles = true) :
    d.setStyles e names = .ok (d.modifyFacet e.id ({ · with styles := names })) := by
  unfold setStyles
  rw [need_ok h]
  rfl

theorem setAsset_ok (d : Document) {e : Element} (id : Runes) (h : e.can .image = true) :
    d.setAsset e id = .ok (d.modifyFacet e.id ({ · with asset := some id })) := by
  unfold setAsset
  rw [need_ok h]
  rfl

theorem setAltText_ok (d : Document) {e : Element} (alt : Runes) (h : e.can .image = true) :
    d.setAltText e alt = .ok (d.modifyFacet e.id ({ · with alt := some alt })) := by
  unfold setAltText
  rw [need_ok h]
  rfl

/-! ## Roots -/

theorem root?_modifyElement (d : Document) (id : Nat) (f : Element → Element) :
    (d.modifyElement id f).root? = d.root?.map (Element.modify id f) := by
  unfold root? page? modifyElement
  dsimp only
  rw [List.find?_map, Function.comp_def]
  dsimp only
  cases List.find? (fun page => page.number == d.current) d.pages with
  | none => rfl
  | some page => rfl

theorem root?_isSome_modifyFacet (d : Document) (id : Nat) (f : Facet → Facet) :
    (d.modifyFacet id f).root?.isSome = d.root?.isSome := by
  unfold modifyFacet
  rw [root?_modifyElement, Option.isSome_map]

/-- A document whose styles alone differ has the same root. -/
theorem root?_createStyle (d : Document) (name : Runes) :
    (d.createStyle name).root? = d.root? := by
  unfold createStyle
  split <;> rfl

theorem resolve_ok {d : Document} (h : d.root?.isSome = true) (key oid : Runes)
    (selector : Option Runes) : ∃ found, d.resolve key oid selector = .ok found := by
  obtain ⟨root, hroot⟩ := Option.isSome_iff_exists.mp h
  unfold resolve findAll currentElements
  rw [hroot]
  exact ⟨_, rfl⟩

theorem resolve_noRoot {d : Document} (h : d.root? = none) (key oid : Runes)
    (selector : Option Runes) : d.resolve key oid selector = .error .noRoot := by
  unfold resolve findAll currentElements
  rw [h]
  rfl

end Document

namespace Interpreter

open Document

theorem root?_defineStyle (spec : StyleSpec) (d : Document) :
    (defineStyle spec d).root? = d.root? := by
  unfold defineStyle
  cases Sketch.nonempty? spec.parent with
  | none => exact root?_createStyle d spec.name.text
  | some name =>
      have hparent := root?_createStyle d name
      have hstyle := root?_createStyle (d.createStyle name) spec.name.text
      exact hstyle.trans hparent

/-- A new page is among the pages, so going to it never fails. -/
theorem createPage_ok (name : Runes) (slug : Option Runes) (d : Document) :
    ∃ after receipt, createPage name slug d = (after, .ok receipt) := by
  have hmem : (d.createPage.1.modifyPage d.createPage.2 fun page =>
      { page with name, slug := (Sketch.nonempty? slug).or page.slug }).pages.any
        (·.number == d.createPage.2) = true := by
    simp [Document.createPage, takePage, modifyPage]
  unfold createPage
  simp only [switchPage, hmem, if_true]
  exact ⟨_, _, rfl⟩

theorem parentFor_can {choice : ParentChoice} {d : Document} {parent : Element}
    (h : parentFor choice d = .ok parent) : parent.can .children = true := by
  unfold parentFor at h
  dsimp only at h
  split at h
  next e he =>
    obtain rfl := Except.ok.inj h
    split at he
    next => exact (Option.filter_eq_some_iff.mp he).2
    next => cases he
  next =>
    split at h
    next root hroot =>
      obtain rfl := Except.ok.inj h
      exact (Option.filter_eq_some_iff.mp hroot).2
    next => cases h

theorem textTarget?_can {target e : Element} (h : textTarget? target = some e) :
    e.can .text = true := by
  unfold textTarget? at h
  split at h
  next hshows =>
    obtain rfl := Option.some.inj h
    exact (Bool.and_eq_true_iff.mp hshows).1
  next =>
    split at h
    next =>
      have hchild := List.find?_some h
      exact (Bool.and_eq_true_iff.mp hchild).2
    next => cases h

/-- Where there is a root, giving a style to elements never fails. -/
theorem styleTargets_ok (key name : Runes) (targets : List Reference) (count : Nat)
    (skipped : List Runes) {d : Document} (h : d.root?.isSome = true) :
    ∃ after receipt, styleTargets key name targets count skipped d = (after, .ok receipt) := by
  induction targets generalizing count skipped d with
  | nil => exact ⟨_, _, rfl⟩
  | cons target rest ih =>
      obtain ⟨found, hfound⟩ := resolve_ok h key target.oid.text target.selector
      unfold styleTargets
      rw [hfound]
      dsimp only
      split
      next => exact ih count _ h
      next e he =>
        rw [setStyles_ok d [name] (Option.filter_eq_some_iff.mp he).2]
        exact ih (count + 1) skipped (by rw [root?_isSome_modifyFacet, h])

theorem styleTargets_noRoot (key name : Runes) {targets : List Reference} (htargets : targets ≠ [])
    (count : Nat) (skipped : List Runes) {d : Document} (h : d.root? = none) :
    styleTargets key name targets count skipped d = (d, .error (.refused .noRoot)) := by
  cases targets with
  | nil => exact absurd rfl htargets
  | cons target rest =>
      unfold styleTargets
      rw [resolve_noRoot h]

/-- An image is filled unless its asset does not exist. -/
theorem fillImage_ok (number : Nat) {asset : Option Runes} (alt : Option Runes) {d : Document}
    (h : ∀ id, Sketch.nonempty? asset = some id → (d.assets.get? id).isSome = true) :
    ∃ after, fillImage (.leaf (.plain number .image none)) asset alt d = (after, .ok ()) := by
  have hcan : (Element.leaf (.plain number .image none)).can .image = true := rfl
  unfold fillImage
  cases hid : Sketch.nonempty? asset with
  | none =>
      dsimp only
      cases Sketch.nonempty? alt with
      | none => exact ⟨_, rfl⟩
      | some text =>
          dsimp only
          rw [setAltText_ok d text hcan]
          exact ⟨_, rfl⟩
  | some id =>
      obtain ⟨found, hfound⟩ := Option.isSome_iff_exists.mp (h id hid)
      have hasset : d.asset id = .ok found := by
        unfold Document.asset
        rw [hfound]
      dsimp only
      rw [hasset, setAsset_ok d id hcan]
      cases Sketch.nonempty? alt with
      | none => exact ⟨_, rfl⟩
      | some text =>
          dsimp only [Bind.bind, Except.bind]
          rw [setAltText_ok _ text hcan]
          exact ⟨_, rfl⟩

theorem fillImage_missing (image : Element) {asset : Option Runes} (alt : Option Runes)
    {d : Document} {id : Runes} (hid : Sketch.nonempty? asset = some id)
    (hmissing : d.assets.get? id = none) :
    fillImage image asset alt d = (d, .error (.assetNotFound id)) := by
  unfold fillImage
  rw [hid]
  dsimp only [Document.asset]
  rw [hmissing]
  rfl

end Interpreter

end DesignBridge
