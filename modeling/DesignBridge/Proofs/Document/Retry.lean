import DesignBridge.Proofs.Document.Target
import Mathlib.Data.List.Forall2

/-! # Setting a text twice

Setting a text leaves the tree as it was but for the texts of elements with one number, so the same
reference leads to the same place again, and the same text is set once more. Only an empty text in
place of one that the element shows itself is different: the element shows none then, and the second
time its first text child is looked for.
-/

namespace DesignBridge

theorem head?_of_forall₂ {α β : Type} {R : α → β → Prop} {xs : List α} {ys : List β}
    (h : List.Forall₂ R xs ys) {x : α} (hx : xs.head? = some x) :
    ∃ y, ys.head? = some y ∧ R x y := by
  cases h with
  | nil => cases hx
  | cons hfirst _ =>
      obtain rfl := Option.some.inj hx
      exact ⟨_, rfl, hfirst⟩

/-- Lists that correspond still do after a test that does not tell their items apart. -/
theorem forall₂_filter {α : Type} {R : α → α → Prop} {xs ys : List α} (h : List.Forall₂ R xs ys)
    {p : α → Bool} (hp : ∀ x y, R x y → p y = p x) :
    List.Forall₂ R (xs.filter p) (ys.filter p) :=
  List.rel_filter (fun x y hsame => Bool.eq_iff_iff.mp (hp x y hsame).symm) h

namespace Element

/-- Setting what one element shows leaves alone what is inside it, and goes on inside all others. -/
theorem modify_mapFacet (id : Nat) (f : Facet → Facet) (e : Element) :
    modify id (mapFacet f) e = ⟨Facet.only id f e.facet,
      if e.id = id then e.children else e.children.map (modify id (mapFacet f))⟩ := by
  obtain ⟨facet, children⟩ := e
  rw [modify, modifyAll_eq]
  unfold Facet.only Element.id
  split <;> rfl

/-- Setting it once more changes nothing if it stays the same. -/
theorem modify_modify {id : Nat} {f : Facet → Facet} (hid : ∀ facet, (f facet).id = facet.id)
    (hf : ∀ facet, f (f facet) = f facet) (e : Element) :
    modify id (mapFacet f) (modify id (mapFacet f) e) = modify id (mapFacet f) e := by
  have honly : ∀ facet, Facet.only id f (Facet.only id f facet) = Facet.only id f facet := by
    intro facet
    rw [congrFun (Facet.only_only hid) facet, funext hf]
  induction e with
  | mk facet children ih =>
      have hchildren : (children.map (modify id (mapFacet f))).map (modify id (mapFacet f)) =
          children.map (modify id (mapFacet f)) := by
        rw [List.map_map]
        exact List.map_congr_left ih
      rw [modify_mapFacet, modify_mapFacet, honly]
      unfold Element.id
      rw [Facet.id_only hid]
      congr 1
      split
      next => rfl
      next => exact hchildren

/-- Whether a tree is another one after the text of an element with some number was set there, or
around it. -/
def Reworded (id : Nat) (text : Runes) (e e' : Element) : Prop :=
  e' = e ∨ e' = modify id (mapFacet ({ · with text := some text })) e

section

variable {id : Nat} {text : Runes} {e e' : Element}

theorem Reworded.facet_eq (h : Reworded id text e e') :
    e'.facet = e.facet ∨ e.id = id ∧ e'.facet = { e.facet with text := some text } := by
  rcases h with rfl | rfl
  · exact Or.inl rfl
  · rw [modify_mapFacet]
    by_cases hid : e.id = id
    · exact Or.inr ⟨hid, if_pos hid⟩
    · exact Or.inl (if_neg hid)

/-- All but the text is the same. -/
theorem Reworded.shown (h : Reworded id text e e') :
    ∃ shown, e'.facet = { e.facet with text := shown } := by
  rcases h.facet_eq with hfacet | ⟨_, hfacet⟩
  · exact ⟨_, hfacet⟩
  · exact ⟨_, hfacet⟩

theorem Reworded.id_eq (h : Reworded id text e e') : e'.id = e.id := by
  obtain ⟨shown, hfacet⟩ := h.shown
  unfold Element.id
  rw [hfacet]

theorem Reworded.kind_eq (h : Reworded id text e e') : e'.kind = e.kind := by
  obtain ⟨shown, hfacet⟩ := h.shown
  unfold Element.kind
  rw [hfacet]

theorem Reworded.can_eq (h : Reworded id text e e') (capability : Capability) :
    e'.can capability = e.can capability := by
  unfold Element.can
  rw [h.kind_eq]

theorem Reworded.children (h : Reworded id text e e') :
    List.Forall₂ (Reworded id text) e.children e'.children := by
  have hsame : List.Forall₂ (Reworded id text) e.children e.children :=
    List.forall₂_same.mpr fun _ _ => Or.inl rfl
  rcases h with rfl | rfl
  · exact hsame
  · rw [modify_mapFacet]
    dsimp only
    split
    next => exact hsame
    next => exact List.forall₂_map_right_iff.mpr (List.forall₂_same.mpr fun _ _ => Or.inr rfl)

theorem forall₂_preorderAll {R : Element → Element → Prop} {trees trees' : List Element}
    (h : List.Forall₂ R trees trees')
    (hinside : ∀ tree ∈ trees, ∀ tree', R tree tree' →
      List.Forall₂ R tree.preorder tree'.preorder) :
    List.Forall₂ R (preorderAll trees) (preorderAll trees') := by
  induction h with
  | nil => exact .nil
  | cons hfirst _ ih =>
      exact List.rel_append (hinside _ List.mem_cons_self _ hfirst)
        (ih fun tree htree => hinside tree (List.mem_cons_of_mem _ htree))

/-- Document order is the same. -/
theorem Reworded.preorder (h : Reworded id text e e') :
    List.Forall₂ (Reworded id text) e.preorder e'.preorder := by
  induction e generalizing e' with
  | mk facet children ih =>
      rw [preorder_eq, preorder_eq]
      exact .cons h (forall₂_preorderAll h.children fun child hchild _ => ih child hchild)

/-- The first text child is the same. -/
theorem Reworded.textChild? (h : Reworded id text e e') {child : Element}
    (hchild : e.textChild? = some child) :
    ∃ child', e'.textChild? = some child' ∧ Reworded id text child child' := by
  have htexts : List.Forall₂ (Reworded id text) (e.children.filter (·.kind = .text))
      (e'.children.filter (·.kind = .text)) :=
    forall₂_filter h.children fun _ _ hsame => by rw [hsame.kind_eq]
  unfold Element.textChild? at hchild ⊢
  rw [← List.head?_filter] at hchild ⊢
  exact head?_of_forall₂ htexts hchild

end

end Element

namespace Document

open Element (nothing Reworded)

section

variable {id : Nat} {text key oid : Runes} {d : Document}

theorem narrow_reworded {layer layer' : List Element}
    (h : List.Forall₂ (Reworded id text) layer layer') (segment : Runes) :
    List.Forall₂ (Reworded id text) (narrow segment layer) (narrow segment layer') := by
  refine List.rel_flatMap (forall₂_filter h fun _ _ hsame => ?_) fun _ _ hparent =>
    forall₂_filter hparent.children fun _ _ hsame => ?_
  · rw [hsame.can_eq]
  · obtain ⟨shown, hfacet⟩ := hsame.shown
    rw [hsame.kind_eq, hfacet]

theorem follow_reworded {layer layer' : List Element}
    (h : List.Forall₂ (Reworded id text) layer layer') (segments : List Runes) :
    List.Forall₂ (Reworded id text) (follow layer segments) (follow layer' segments) := by
  induction segments generalizing layer layer' with
  | nil => exact h
  | cons segment rest ih => exact ih (narrow_reworded h segment)

/-- After a text was set, a reference leads to where it led before. -/
theorem resolve_reworded {selector : Option Runes} {found : Element}
    (h : d.resolve key oid selector = .ok (some found)) (id : Nat) (text : Runes) :
    ∃ found', (d.worded id text).resolve key oid selector =
      .ok (some found') ∧ Reworded id text found found' := by
  obtain ⟨root, hroot, _⟩ := resolve_mem h
  have hroot' : (d.worded id text).root? =
      some (root.modify id (Element.mapFacet ({ · with text := some text }))) := by
    unfold worded modifyFacet
    rw [root?_modifyElement, hroot]
    rfl
  have hpreorder : List.Forall₂ (Reworded id text) root.preorder
      (root.modify id (Element.mapFacet ({ · with text := some text }))).preorder :=
    Reworded.preorder (Or.inr rfl)
  have htagged : List.Forall₂ (Reworded id text) (root.preorder.filter (carries key oid))
      ((root.modify id (Element.mapFacet ({ · with text := some text }))).preorder.filter
        (carries key oid)) := by
    refine forall₂_filter hpreorder fun _ _ hsame => ?_
    obtain ⟨shown, hfacet⟩ := hsame.shown
    unfold carries
    rw [hsame.can_eq, hfacet]
  rw [resolve_of_root hroot] at h
  rw [resolve_of_root hroot']
  have hfound := Except.ok.inj h
  split at hfound
  next hblank =>
    obtain ⟨found', hfound', hsame⟩ := head?_of_forall₂ htagged hfound
    rw [if_pos hblank, hfound']
    exact ⟨found', rfl, hsame⟩
  next hblank =>
    obtain ⟨found', hfound', hsame⟩ := head?_of_forall₂ (follow_reworded htagged _) hfound
    rw [if_neg hblank, hfound']
    exact ⟨found', rfl, hsame⟩

theorem worded_worded (d : Document) (id : Nat) (text : Runes) :
    (d.worded id text).worded id text = d.worded id text := by
  have hmodify : ∀ e : Element,
      Element.modify id (Element.mapFacet ({ · with text := some text }))
          (Element.modify id (Element.mapFacet ({ · with text := some text })) e) =
        Element.modify id (Element.mapFacet ({ · with text := some text })) e :=
    Element.modify_modify (fun _ => rfl) fun _ => rfl
  unfold worded modifyFacet modifyElement
  simp only [List.map_map, Function.comp_def, Option.map_map, Element.modifyAll_eq, hmodify]

/-- Setting the text of an element leaves a document as it is just if the element holds it
already. -/
theorem worded_eq_self_iff (h : (d.everything.map (·.id)).Nodup) {a : Element}
    (ha : a ∈ d.everything) : d.worded a.id text = d ↔ a.facet.text = some text := by
  have hself : Facet.only a.id ({ · with text := some text }) a.facet =
      { a.facet with text := some text } := if_pos rfl
  rw [worded_eq_revise h]
  constructor
  · intro hsame
    have hmem : a.revise (Facet.only a.id ({ · with text := some text })) nothing ∈
        d.everything := by
      rw [← hsame, everything_revise_nothing]
      exact List.mem_map_of_mem ha
    have hkept := List.inj_on_of_nodup_map h hmem ha
      (Element.id_revise (Interpreter.revises_text a.id text).id a)
    have hfacet := congrArg Element.facet hkept
    rw [Element.revise_facet, hself] at hfacet
    exact (congrArg Facet.text hfacet).symm
  · intro htext
    refine (revise_congr (fun b hb => ?_) fun _ _ => rfl).trans (revise_same d)
    by_cases hnumber : b.id = a.id
    · rw [List.inj_on_of_nodup_map h hb ha hnumber, hself, ← htext]
    · exact Facet.only_of_ne hnumber

end

end Document

namespace Interpreter

open Document
open Element (nothing Reworded)

variable {d : Document} {key : Runes} {target : Reference} {text : Runes}

/-- The text that was set is the one that is set again, unless an empty one took the place of one
that the element shows itself. -/
theorem textTarget?_reworded {found found' e : Element} (h : Reworded e.id text found found')
    (he : textTarget? found = some e) (hkept : text ≠ "" ∨ found.showsText = false) :
    ∃ e', textTarget? found' = some e' ∧ e'.id = e.id := by
  rw [textTarget?_eq] at he ⊢
  by_cases hshows : found'.showsText = true
  · -- What the element shows now it showed before, or it is the text that was set.
    refine ⟨found', if_pos hshows, ?_⟩
    rw [h.id_eq]
    rcases h.facet_eq with hfacet | ⟨hid, _⟩
    · have hbefore : found.showsText = true := by
        unfold Element.showsText at hshows ⊢
        rwa [h.can_eq, hfacet] at hshows
      rw [if_pos hbefore] at he
      rw [Option.some.inj he]
    · exact hid
  · have hbefore : found.showsText = false := by
      refine hkept.elim (fun hne => ?_) id
      by_contra hshown
      rw [Bool.not_eq_false] at hshown
      refine hshows ?_
      unfold Element.showsText at hshown ⊢
      rcases h.facet_eq with hfacet | ⟨_, hfacet⟩
      · rwa [h.can_eq, hfacet]
      · rw [h.can_eq, hfacet, (Bool.and_eq_true_iff.mp hshown).1]
        simp [Sketch.nonempty?, Option.filter, hne]
    rw [hbefore, if_neg Bool.false_ne_true] at he
    rw [if_neg hshows, h.can_eq]
    split at he
    next hcan =>
      obtain ⟨child, hchild, hsame⟩ := h.textChild? he
      exact ⟨child, by rw [if_pos hcan, hchild], hsame.id_eq⟩
    next => cases he

/-- What an operation on texts did, it does again, unless it emptied the text that the element shows
itself. -/
theorem setText_setText {found e : Element}
    (hfound : d.resolve key target.oid.text target.selector = .ok (some found))
    (he : textTarget? found = some e) (hkept : text ≠ "" ∨ found.showsText = false) :
    setText key target text (setText key target text d).1 = setText key target text d := by
  obtain ⟨found', hfound', hsame⟩ := resolve_reworded hfound e.id text
  obtain ⟨e', he', hid⟩ := textTarget?_reworded hsame he hkept
  have hfirst : setText key target text d =
      (d.worded e.id text, .ok (.textSet target.oid.text text)) := by
    rw [setText_eq, written_of_resolve hfound, he]
  have hsecond : setText key target text (d.worded e.id text) =
      ((d.worded e.id text).worded e'.id text, .ok (.textSet target.oid.text text)) := by
    rw [setText_eq, written_of_resolve hfound', he']
  rw [hfirst]
  dsimp only
  rw [hsecond, hid, worded_worded]

/-! ## An own text that was emptied -/

section

variable {found : Element}

/-- After the text that an element shows itself was emptied, its first text child is written. -/
theorem written_of_emptied (h : d.WellFormed)
    (hfound : d.resolve key target.oid.text target.selector = .ok (some found))
    (hshows : found.showsText = true) :
    written key target (d.worded found.id "") = match found.textChild? with
      | none => .error (.noTextTarget target.oid.text)
      | some child =>
        .ok (child.revise (Facet.only found.id ({ · with text := some "" })) nothing) := by
  have hrevises := revises_text found.id ""
  have hfound' := resolve_revise (d := d) hrevises key target.oid.text target.selector
  rw [hfound] at hfound'
  have hhidden :
      (found.revise (Facet.only found.id ({ · with text := some "" })) nothing).showsText =
      false := by
    unfold Element.showsText
    rw [Element.revise_facet]
    exact Bool.and_eq_false_iff.mpr (Or.inr (congrArg
      (fun facet : Facet => (Sketch.nonempty? facet.text).isSome) (if_pos rfl)))
  have hchildren : found.can .children = true := by
    have htext : found.can .text = true := (Bool.and_eq_true_iff.mp hshows).1
    unfold Element.can at htext ⊢
    rcases kind_of_resolve hfound with hkind | hkind
    · rw [hkind]; rfl
    · rw [hkind] at htext; cases htext
  rw [worded_eq_revise h.distinct, written_of_resolve hfound', textTarget?_eq, hhidden,
    if_neg Bool.false_ne_true, Element.can_revise hrevises.kind, if_pos hchildren,
    Element.textChild?_revise hrevises]
  cases found.textChild? <;> rfl

/-- The first text child is left alone when that text is emptied. -/
theorem textChild?_of_emptied (h : d.WellFormed) {child : Element}
    (hfound : d.resolve key target.oid.text target.selector = .ok (some found))
    (hchild : found.textChild? = some child) :
    ∃ kept ∈ (d.worded found.id "").everything,
      kept.id = child.id ∧ kept.facet = child.facet := by
  have hrevises := revises_text found.id ""
  obtain ⟨root, hroot, hmem⟩ := mem_elements.mp (resolve_mem_elements hfound)
  have hinside := Element.mem_preorder_of_mem_children hmem (Element.mem_of_textChild? hchild)
  have heverything : child ∈ d.everything :=
    mem_everything_of_mem_elements (mem_elements.mpr ⟨root, hroot, hinside⟩)
  have hother : child.id ≠ found.id := by
    intro hid
    have hsame := List.inj_on_of_nodup_map h.distinct heverything
      (mem_everything_of_mem_elements (resolve_mem_elements hfound)) hid
    exact kind_ne_text_of_resolve hfound (hsame ▸ Element.kind_of_textChild? hchild)
  refine ⟨child.revise (Facet.only found.id ({ · with text := some "" })) nothing, ?_,
    Element.id_revise hrevises.id child, ?_⟩
  · rw [worded_eq_revise h.distinct, everything_revise_nothing]
    exact List.mem_map_of_mem heverything
  · rw [Element.revise_facet]
    exact Facet.only_of_ne hother

/-- Emptying that text once more empties the first text child, if there is one. -/
theorem setText_of_emptied (h : d.WellFormed)
    (hfound : d.resolve key target.oid.text target.selector = .ok (some found))
    (hshows : found.showsText = true) :
    (found.textChild? = none → setText key target "" (d.worded found.id "") =
      (d.worded found.id "", .error (.noTextTarget target.oid.text))) ∧
    ∀ child, found.textChild? = some child →
      setText key target "" (d.worded found.id "") =
        ((d.worded found.id "").worded child.id "", .ok (.textSet target.oid.text "")) ∧
      ((d.worded found.id "").worded child.id "" = d.worded found.id "" ↔
        child.facet.text = some ↑"") := by
  rw [setText_eq, written_of_emptied h hfound hshows]
  refine ⟨fun hnone => ?_, fun child hchild => ⟨?_, ?_⟩⟩
  · rw [hnone]
  · rw [hchild]
    dsimp only
    rw [Element.id_revise (revises_text found.id "").id]
  · obtain ⟨kept, hkept, hid, hfacet⟩ := textChild?_of_emptied h hfound hchild
    have hdistinct : ((d.worded found.id "").everything.map (·.id)).Nodup := by
      rw [worded_eq_revise h.distinct]
      exact distinct_revise (revises_text found.id "") h.distinct
    rw [← hid, ← hfacet, worded_eq_self_iff hdistinct hkept]

end

/-- Setting a text twice. The second time the operation succeeds with the same result and leaves the
document as it was left the first time, if the text is not empty or the element shows none of its
own. Otherwise the text that the element shows itself was emptied: then the second operation fails
if the element has no text child, and it empties the first text child if there is one. -/
theorem texts_set_again (i : Interpreter) (d : Document) {x : Instruction} {target : Reference}
    {text : Runes} (hx : x.operation = .ok (.setText target text))
    (hok : (i.step d x).2.success = true) :
    ∃ found, d.resolve i.key target.oid.text target.selector = .ok (some found) ∧
      (text ≠ "" ∨ found.showsText = false → i.step (i.step d x).1 x = i.step d x) ∧
      (d.WellFormed → text = "" → found.showsText = true →
        (found.textChild? = none → i.step (i.step d x).1 x =
          ((i.step d x).1, resultOf x.name (.error (.noTextTarget target.oid.text)))) ∧
        ∀ child, found.textChild? = some child →
          i.step (i.step d x).1 x = ((i.step d x).1.worded child.id "", (i.step d x).2) ∧
          (i.step (i.step d x).1 x = i.step d x ↔ child.facet.text = some ↑"")) := by
  have hstep : ∀ d : Document, i.step d x =
      ((setText i.key target text d).1, resultOf x.name (setText i.key target text d).2) :=
    fun d => step_eq i d hx
  cases hwritten : written i.key target d with
  | error e =>
      rw [hstep, setText_eq, hwritten] at hok
      cases hok
  | ok e =>
      obtain ⟨found, hfound, he⟩ := written_eq_ok hwritten
      refine ⟨found, hfound, fun hkept => ?_, fun hd htext hshows => ?_⟩
      · simp only [hstep]
        rw [setText_setText hfound he hkept]
      · subst htext
        obtain rfl : found = e := by
          rw [textTarget?_eq, if_pos hshows] at he
          exact Option.some.inj he
        have hfirst : setText i.key target "" d =
            (d.worded found.id "", .ok (.textSet target.oid.text "")) := by
          rw [setText_eq, hwritten]
        obtain ⟨hnone, hsome⟩ := setText_of_emptied hd hfound hshows
        refine ⟨fun hchild => ?_, fun child hchild => ?_⟩
        · simp only [hstep, hfirst, hnone hchild]
        · obtain ⟨hsecond, hsame⟩ := hsome child hchild
          simp only [hstep, hfirst, hsecond, Prod.mk.injEq, and_true, true_and]
          exact hsame

/-- A heading gets a new text, twice. -/
theorem texts_set_again_heading :
    let i : Interpreter := ⟨"data-oid", .int 0⟩
    let heading : Node := ⟨⟨"h1", by decide, by decide⟩, some "title", some "Old", none, none, none⟩
    let d := (i.run .fresh [.ready (.buildTree .root heading)]).1
    let x : Instruction := .ready (.setText ⟨⟨"title", by decide, by decide⟩, none⟩ "New")
    x.operation = .ok (.setText ⟨⟨"title", by decide, by decide⟩, none⟩ "New") ∧
      (i.step d x).2.success = true ∧ i.step (i.step d x).1 x = i.step d x := by
  intro i heading d x
  have hok : (i.step d x).2.success = true := by decide +kernel
  obtain ⟨_, -, hagain, -⟩ := texts_set_again i d (x := x) rfl hok
  exact ⟨rfl, hok, hagain (Or.inl (by decide))⟩

/-- The text of a heading is emptied, and then there is none to set. -/
theorem emptied_text_not_set_again :
    let i : Interpreter := ⟨"data-oid", .int 0⟩
    let d := (i.step .fresh (.raw (.object [("op", .text "BUILD_TREE"), ("parent", .text "root"),
      ("tree", .object [("tag", .text "h1"), ("oid", .text "title"), ("text", .text "Old")])]))).1
    let x : Instruction := .raw (.object [("op", .text "SET_TEXT_BY_OID"), ("oid", .text "title"),
      ("text", .text "")])
    (i.step d x).2.success = true ∧ (i.step (i.step d x).1 x).2.success = false := by
  decide +kernel

end Interpreter

end DesignBridge
