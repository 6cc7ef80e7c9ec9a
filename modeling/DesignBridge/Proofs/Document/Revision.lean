import DesignBridge.Proofs.Document.Calls
import DesignBridge.Proofs.Document.Placing

/-! # Documents revised

What the calls on one element do, as a revision of all trees of the document. Looking for elements
does not see the texts and the styles, so it finds the same elements, revised, after these were set.
-/

namespace DesignBridge

namespace Facet

/-- Whether an edit changes at most the texts and the styles of facets. -/
def Revises (edit : Facet → Facet) : Prop :=
  ∀ facet, ∃ text styles, edit facet = { facet with text, styles }

/-- The edit of the facets with one number. -/
def only (id : Nat) (f : Facet → Facet) : Facet → Facet :=
  fun facet => if facet.id = id then f facet else facet

theorem only_of_ne {id : Nat} {f : Facet → Facet} {facet : Facet} (h : facet.id ≠ id) :
    only id f facet = facet :=
  if_neg h

theorem only_same (id : Nat) : only id (fun facet => facet) = fun facet => facet := by
  funext facet
  exact ite_self facet

theorem only_only {id : Nat} {f g : Facet → Facet} (hid : ∀ facet, (f facet).id = facet.id) :
    (fun facet => only id g (only id f facet)) = only id fun facet => g (f facet) := by
  funext facet
  by_cases heq : facet.id = id
  · simp only [only, heq, hid, if_true]
  · rw [only_of_ne heq, only_of_ne heq, only_of_ne heq]

section

variable {edit edit' : Facet → Facet}

theorem revises_same : Revises fun facet => facet :=
  fun facet => ⟨facet.text, facet.styles, rfl⟩

theorem Revises.only (h : Revises edit) (id : Nat) : Revises (only id edit) := by
  intro facet
  unfold Facet.only
  split
  next => exact h facet
  next => exact revises_same facet

theorem Revises.id (h : Revises edit) (facet : Facet) : (edit facet).id = facet.id := by
  obtain ⟨text, styles, heq⟩ := h facet
  rw [heq]

theorem Revises.kind (h : Revises edit) (facet : Facet) : (edit facet).kind = facet.kind := by
  obtain ⟨text, styles, heq⟩ := h facet
  rw [heq]

theorem Revises.tag (h : Revises edit) (facet : Facet) : (edit facet).tag = facet.tag := by
  obtain ⟨text, styles, heq⟩ := h facet
  rw [heq]

theorem Revises.attributes (h : Revises edit) (facet : Facet) :
    (edit facet).attributes = facet.attributes := by
  obtain ⟨text, styles, heq⟩ := h facet
  rw [heq]

end

end Facet

/-- A page with its tree revised. -/
def Page.revise (edit : Facet → Facet) (new : Nat → List Element) (page : Page) : Page :=
  { page with root := page.root.map (Element.revise edit new) }

namespace Document

/-- All trees of a document, on pages or detached. -/
def trees (d : Document) : List Element :=
  d.roots ++ d.detached

/-- All elements of a document, on pages or detached. -/
def everything (d : Document) : List Element :=
  Element.preorderAll d.trees

/-- The facets of all pages as they stand in their trees. -/
def rows (d : Document) : List Element.Placed :=
  d.roots.flatMap (Element.placed none 0)

/-- A document with all its trees revised. -/
def revise (edit : Facet → Facet) (new : Nat → List Element) (d : Document) : Document :=
  { d with
    pages := d.pages.map (Page.revise edit new)
    detached := d.detached.map (Element.revise edit new) }

open Element (nothing under)

section

variable {d : Document} {edit : Facet → Facet} {new : Nat → List Element}

theorem mem_everything {a : Element} : a ∈ d.everything ↔ ∃ tree ∈ d.trees, a ∈ tree.preorder :=
  Element.mem_preorderAll

theorem mem_elements {a : Element} : a ∈ d.elements ↔ ∃ root ∈ d.roots, a ∈ root.preorder :=
  Element.mem_preorderAll

theorem mem_everything_of_mem_elements {a : Element} (h : a ∈ d.elements) : a ∈ d.everything := by
  obtain ⟨root, hroot, ha⟩ := mem_elements.mp h
  exact mem_everything.mpr ⟨root, List.mem_append_left _ hroot, ha⟩

theorem mem_trees_of_mem_pages {page : Page} {root : Element} (h : page ∈ d.pages)
    (hroot : page.root = some root) : root ∈ d.trees :=
  List.mem_append_left _ (List.mem_filterMap.mpr ⟨page, h, hroot⟩)

theorem root?_mem {root : Element} (h : d.root? = some root) : root ∈ d.roots := by
  obtain ⟨page, hpage, hroot⟩ := Option.bind_eq_some_iff.mp h
  exact List.mem_filterMap.mpr ⟨page, List.mem_of_find?_eq_some hpage, hroot⟩

theorem currentElements_eq {root : Element} (h : d.root? = some root) :
    d.currentElements = .ok root.preorder := by
  unfold currentElements
  rw [h]

theorem roots_revise (edit : Facet → Facet) (new : Nat → List Element) (d : Document) :
    (d.revise edit new).roots = d.roots.map (Element.revise edit new) := by
  unfold roots revise
  rw [List.filterMap_map, List.map_filterMap]
  rfl

theorem trees_revise (edit : Facet → Facet) (new : Nat → List Element) (d : Document) :
    (d.revise edit new).trees = d.trees.map (Element.revise edit new) := by
  unfold trees
  rw [roots_revise, List.map_append]
  rfl

theorem root?_revise (edit : Facet → Facet) (new : Nat → List Element) (d : Document) :
    (d.revise edit new).root? = d.root?.map (Element.revise edit new) := by
  unfold root? page? revise
  dsimp only
  rw [List.find?_map, Option.bind_map, Option.map_bind]
  rfl

theorem mem_everything_revise {a : Element} :
    a ∈ (d.revise edit new).everything ↔
      (∃ b ∈ d.everything, a = b.revise edit new) ∨
        ∃ b ∈ d.everything, a ∈ Element.preorderAll (new b.id) := by
  unfold everything
  rw [trees_revise]
  exact Element.mem_preorderAll_revise

theorem everything_revise_nothing (edit : Facet → Facet) (d : Document) :
    (d.revise edit nothing).everything = d.everything.map (Element.revise edit nothing) := by
  unfold everything
  rw [trees_revise, Element.preorderAll_eq, Element.preorderAll_eq, List.flatMap_map,
    List.map_flatMap]
  simp only [Element.preorder_revise_nothing]

theorem ids_revise_nothing (hid : ∀ facet, (edit facet).id = facet.id) (d : Document) :
    (d.revise edit nothing).everything.map (·.id) = d.everything.map (·.id) := by
  rw [everything_revise_nothing, List.map_map]
  simp only [Function.comp_def, Element.id_revise hid]

theorem revise_revise (edit' : Facet → Facet) (d : Document) :
    (d.revise edit new).revise edit' nothing =
      d.revise (fun facet => edit' (edit facet))
        fun n => (new n).map (Element.revise edit' nothing) := by
  have helement : ∀ e : Element, (e.revise edit new).revise edit' nothing =
      e.revise (fun facet => edit' (edit facet))
        fun n => (new n).map (Element.revise edit' nothing) := Element.revise_revise edit'
  have hpage : ∀ page : Page, (page.revise edit new).revise edit' nothing =
      page.revise (fun facet => edit' (edit facet))
        fun n => (new n).map (Element.revise edit' nothing) := by
    intro page
    unfold Page.revise
    rw [Option.map_map]
    exact congrArg _ (congrArg (page.root.map ·) (funext helement))
  unfold revise
  rw [List.map_map, List.map_map]
  simp only [Function.comp_def, hpage, helement]

theorem revise_congr {edit' : Facet → Facet} {new' : Nat → List Element}
    (hedit : ∀ a ∈ d.everything, edit a.facet = edit' a.facet)
    (hnew : ∀ a ∈ d.everything, new a.id = new' a.id) :
    d.revise edit new = d.revise edit' new' := by
  have htree : ∀ tree ∈ d.trees, tree.revise edit new = tree.revise edit' new' := by
    intro tree htree
    have hmem : ∀ a ∈ tree.preorder, a ∈ d.everything := fun a ha =>
      mem_everything.mpr ⟨tree, htree, ha⟩
    exact Element.revise_congr (fun a ha => hedit a (hmem a ha)) fun a ha => hnew a (hmem a ha)
  have hpage : ∀ page ∈ d.pages, page.revise edit new = page.revise edit' new' := by
    intro page hpage
    unfold Page.revise
    cases hroot : page.root with
    | none => rfl
    | some root =>
        rw [Option.map_some, Option.map_some, htree root (mem_trees_of_mem_pages hpage hroot)]
  unfold revise
  rw [List.map_congr_left hpage,
    List.map_congr_left fun tree hmem => htree tree (List.mem_append_right _ hmem)]

theorem revise_same (d : Document) : d.revise (fun facet => facet) nothing = d := by
  have hpage : ∀ page : Page, page.revise (fun facet => facet) nothing = page := by
    intro page
    unfold Page.revise
    rw [funext Element.revise_same, Option.map_id']
  unfold revise
  rw [funext hpage, funext Element.revise_same, List.map_id', List.map_id']

/-! ## Calls on one element -/

theorem modifyElement_eq_revise {id : Nat} {f : Element → Element}
    (hf : ∀ e : Element, e.id = id → f e = ⟨edit e.facet, e.children ++ new e.id⟩)
    (hedit : ∀ facet : Facet, facet.id ≠ id → edit facet = facet)
    (hnew : ∀ n, n ≠ id → new n = []) (h : (d.everything.map (·.id)).Nodup) :
    d.modifyElement id f = d.revise edit new := by
  have htree : ∀ tree ∈ d.trees, tree.modify id f = tree.revise edit new := by
    intro tree htree
    exact Element.modify_eq_revise hf hedit hnew
      (((Element.preorder_sublist htree).map _).nodup h)
  have hpage : ∀ page ∈ d.pages, { page with root := page.root.map (Element.modify id f) } =
      page.revise edit new := by
    intro page hpage
    unfold Page.revise
    cases hroot : page.root with
    | none => rfl
    | some root =>
        rw [Option.map_some, Option.map_some, htree root (mem_trees_of_mem_pages hpage hroot)]
  unfold modifyElement revise
  rw [List.map_congr_left hpage, Element.modifyAll_eq,
    List.map_congr_left fun tree hmem => htree tree (List.mem_append_right _ hmem)]

/-- Setting what one element shows is an edit of its facet. -/
theorem modifyFacet_eq_revise (id : Nat) (f : Facet → Facet)
    (h : (d.everything.map (·.id)).Nodup) :
    d.modifyFacet id f = d.revise (Facet.only id f) nothing := by
  refine modifyElement_eq_revise (fun e he => ?_) (fun facet hne => Facet.only_of_ne hne)
    (fun _ _ => rfl) h
  have hedit : Facet.only id f e.facet = f e.facet := if_pos he
  rw [hedit]
  exact congrArg _ (List.append_nil _).symm

/-- A sketch that is put into an element is a new tree after the children of that element. -/
theorem attached_eq_revise (parent : Element) (sketch : Sketch)
    (h : (d.everything.map (·.id)).Nodup) :
    d.attached parent sketch =
      { d.revise (fun facet => facet) (under parent.id (sketch.place d.nextElement).1) with
        nextElement := (sketch.place d.nextElement).2 } := by
  have hrevise : d.modifyElement parent.id (·.append (sketch.place d.nextElement).1) =
      d.revise (fun facet => facet) (under parent.id (sketch.place d.nextElement).1) := by
    refine modifyElement_eq_revise (fun e he => ?_) (fun _ _ => rfl)
      (fun n hn => if_neg hn) h
    have hnew : under parent.id (sketch.place d.nextElement).1 e.id =
        [(sketch.place d.nextElement).1] := if_pos he
    rw [hnew]
    rfl
  unfold attached
  rw [hrevise]

/-! ## Looking for elements -/

theorem narrow_mem {segment : Runes} {root child : Element} {layer : List Element}
    (h : ∀ e ∈ layer, e ∈ root.preorder) (hchild : child ∈ narrow segment layer) :
    child ∈ root.preorder := by
  obtain ⟨e, he, hmem⟩ := List.mem_flatMap.mp hchild
  exact Element.mem_preorder_of_mem_children (h e (List.mem_filter.mp he).1)
    (List.mem_filter.mp hmem).1

theorem follow_mem {root e : Element} {layer : List Element} {segments : List Runes}
    (h : ∀ e ∈ layer, e ∈ root.preorder) (he : e ∈ follow layer segments) : e ∈ root.preorder := by
  induction segments generalizing layer with
  | nil => exact h e he
  | cons segment rest ih => exact ih (fun child => narrow_mem h) he

/-- Where there is a root, the identifier finds elements of its tree, and the selector goes on from
there unless it is blank. -/
theorem resolve_of_root {root : Element} (h : d.root? = some root) (key oid : Runes)
    (selector : Option Runes) :
    d.resolve key oid selector =
      .ok (if isBlankSelector selector then (root.preorder.filter (carries key oid)).head?
        else (follow (root.preorder.filter (carries key oid))
          (Selector.segments (selector.getD ""))).head?) := by
  unfold resolve findAll
  rw [currentElements_eq h]
  cases selector with
  | none => rfl
  | some path => rfl

/-- What is found is on the current page. -/
theorem resolve_mem {key oid : Runes} {selector : Option Runes} {e : Element}
    (h : d.resolve key oid selector = .ok (some e)) :
    ∃ root, d.root? = some root ∧ e ∈ root.preorder := by
  cases hroot : d.root? with
  | none =>
      rw [resolve_noRoot hroot] at h
      cases h
  | some root =>
      refine ⟨root, rfl, ?_⟩
      have htagged : ∀ a ∈ root.preorder.filter (carries key oid), a ∈ root.preorder :=
        fun a ha => (List.mem_filter.mp ha).1
      rw [resolve_of_root hroot] at h
      have hfound := Except.ok.inj h
      split at hfound
      next => exact htagged e (List.mem_of_head? hfound)
      next => exact follow_mem htagged (List.mem_of_head? hfound)

theorem resolve_mem_elements {key oid : Runes} {selector : Option Runes} {e : Element}
    (h : d.resolve key oid selector = .ok (some e)) : e ∈ d.elements := by
  obtain ⟨root, hroot, he⟩ := resolve_mem h
  exact mem_elements.mpr ⟨root, root?_mem hroot, he⟩

theorem carries_revise (hedit : Facet.Revises edit) (key oid : Runes) (e : Element) :
    carries key oid (e.revise edit nothing) = carries key oid e := by
  unfold carries
  rw [Element.can_revise hedit.kind, Element.revise_facet, hedit.attributes]

theorem narrow_revise (hedit : Facet.Revises edit) (segment : Runes) (layer : List Element) :
    narrow segment (layer.map (Element.revise edit nothing)) =
      (narrow segment layer).map (Element.revise edit nothing) := by
  unfold narrow
  simp only [List.filter_map, Function.comp_def, List.flatMap_map, List.map_flatMap,
    Element.can_revise hedit.kind, Element.kind_revise hedit.kind, Element.revise_children_nothing,
    Element.revise_facet, hedit.tag]

theorem follow_revise (hedit : Facet.Revises edit) (layer : List Element)
    (segments : List Runes) :
    follow (layer.map (Element.revise edit nothing)) segments =
      (follow layer segments).map (Element.revise edit nothing) := by
  induction segments generalizing layer with
  | nil => rfl
  | cons segment rest ih =>
      unfold follow at ih ⊢
      rw [List.foldl_cons, List.foldl_cons, narrow_revise hedit, ih]

/-- Looking for elements finds the same ones after texts and styles were set. -/
theorem resolve_revise (hedit : Facet.Revises edit) (key oid : Runes)
    (selector : Option Runes) :
    (d.revise edit nothing).resolve key oid selector =
      (d.resolve key oid selector).map (Option.map (Element.revise edit nothing)) := by
  cases hroot : d.root? with
  | none =>
      have hnone : (d.revise edit nothing).root? = none := by rw [root?_revise, hroot]; rfl
      rw [resolve_noRoot hroot, resolve_noRoot hnone]
      rfl
  | some root =>
      have hsome : (d.revise edit nothing).root? = some (root.revise edit nothing) := by
        rw [root?_revise, hroot]
        rfl
      have htagged : (root.revise edit nothing).preorder.filter (carries key oid) =
          (root.preorder.filter (carries key oid)).map (Element.revise edit nothing) := by
        rw [Element.preorder_revise_nothing, List.filter_map]
        simp only [Function.comp_def, carries_revise hedit]
      rw [resolve_of_root hroot, resolve_of_root hsome, htagged]
      cases isBlankSelector selector with
      | true =>
          rw [if_pos rfl, if_pos rfl, List.head?_map]
          rfl
      | false =>
          rw [if_neg Bool.false_ne_true, if_neg Bool.false_ne_true, follow_revise hedit,
            List.head?_map]
          rfl

end

end Document

end DesignBridge
