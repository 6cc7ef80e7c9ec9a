import Mathlib.Data.List.Flatten
import Mathlib.Data.List.Nodup
import Mathlib.Data.List.Pairwise
import Mathlib.Data.List.Perm.Basic
import DesignBridge.Document.Sketch

/-! # Trees of elements

A tree lists its elements parent first. Every element but the root is listed once more, in the
child list of its parent, and nowhere else if the numbers are distinct. A tree is revised by
changing facets and by putting new trees behind the children of some elements; that keeps every
element in its place, and it is all that `modify` does where the numbers are distinct.
-/

namespace DesignBridge.Element

@[induction_eliminator]
theorem treeInduction {P : Element → Prop}
    (mk : ∀ facet children, (∀ child ∈ children, P child) → P ⟨facet, children⟩) :
    (e : Element) → P e
  | ⟨facet, children⟩ => mk facet children fun child _ => treeInduction mk child

/-! ## Lists of trees -/

theorem preorderAll_eq (trees : List Element) : preorderAll trees = trees.flatMap preorder := by
  induction trees with
  | nil => rfl
  | cons e rest ih => rw [preorderAll, ih, List.flatMap_cons]

theorem preorderAll_append (first second : List Element) :
    preorderAll (first ++ second) = preorderAll first ++ preorderAll second := by
  rw [preorderAll_eq, preorderAll_eq, preorderAll_eq, List.flatMap_append]

theorem placedAll_eq (parent : Option Nat) (depth : Nat) (trees : List Element) :
    placedAll parent depth trees = trees.flatMap (placed parent depth) := by
  induction trees with
  | nil => rfl
  | cons e rest ih => rw [placedAll, ih, List.flatMap_cons]

theorem modifyAll_eq (id : Nat) (f : Element → Element) (trees : List Element) :
    modifyAll id f trees = trees.map (modify id f) := by
  induction trees with
  | nil => rfl
  | cons e rest ih => rw [modifyAll, ih, List.map_cons]

theorem preorder_eq : (e : Element) → e.preorder = e :: preorderAll e.children
  | ⟨_, _⟩ => rfl

theorem mem_preorderAll {a : Element} {trees : List Element} :
    a ∈ preorderAll trees ↔ ∃ tree ∈ trees, a ∈ tree.preorder := by
  rw [preorderAll_eq, List.mem_flatMap]

theorem mem_preorder_self (e : Element) : e ∈ e.preorder := by
  rw [preorder_eq]
  exact List.mem_cons_self

theorem preorder_sublist {tree : Element} {trees : List Element} (h : tree ∈ trees) :
    tree.preorder.Sublist (preorderAll trees) := by
  obtain ⟨front, back, rfl⟩ := List.append_of_mem h
  rw [preorderAll_eq, List.flatMap_append, List.flatMap_cons]
  exact (List.sublist_append_left _ _).trans (List.sublist_append_right _ _)

theorem preorder_sublist_of_mem {root e : Element} (h : e ∈ root.preorder) :
    e.preorder.Sublist root.preorder := by
  induction root with
  | mk facet children ih =>
      rw [preorder_eq] at h
      rcases List.mem_cons.mp h with rfl | h
      · exact .refl _
      · obtain ⟨tree, htree, hmem⟩ := mem_preorderAll.mp h
        exact ((ih tree htree hmem).trans (preorder_sublist htree)).cons _

theorem mem_preorder_of_mem_children {root e child : Element} (h : e ∈ root.preorder)
    (hchild : child ∈ e.children) : child ∈ root.preorder := by
  induction root with
  | mk facet children ih =>
      rw [preorder_eq] at h ⊢
      rcases List.mem_cons.mp h with rfl | h
      · exact List.mem_cons_of_mem _ (mem_preorderAll.mpr ⟨child, hchild, mem_preorder_self child⟩)
      · obtain ⟨tree, htree, hmem⟩ := mem_preorderAll.mp h
        exact List.mem_cons_of_mem _ (mem_preorderAll.mpr ⟨tree, htree, ih tree htree hmem⟩)

/-! ## Parents -/

/-- The numbers of the children of an element. -/
def childIds (e : Element) : List Nat :=
  e.children.map (·.id)

theorem ids_preorderAll_of {trees : List Element}
    (h : ∀ tree ∈ trees,
      (tree.preorder.map (·.id)).Perm (tree.id :: tree.preorder.flatMap childIds)) :
    ((preorderAll trees).map (·.id)).Perm
      (trees.map (·.id) ++ (preorderAll trees).flatMap childIds) := by
  rw [preorderAll_eq, List.map_flatMap, List.flatMap_assoc]
  refine (List.Perm.flatMap_left trees h).trans ?_
  exact (List.map_append_flatMap_perm trees (·.id) fun tree => tree.preorder.flatMap childIds).symm

theorem ids_preorder (e : Element) :
    (e.preorder.map (·.id)).Perm (e.id :: e.preorder.flatMap childIds) := by
  induction e with
  | mk facet children ih =>
      rw [preorder_eq, List.map_cons, List.flatMap_cons]
      exact List.Perm.cons _ (ids_preorderAll_of ih)

/-- Every element of some trees is a root, or it is in a child list, as often as it is listed. -/
theorem ids_preorderAll (trees : List Element) :
    ((preorderAll trees).map (·.id)).Perm
      (trees.map (·.id) ++ (preorderAll trees).flatMap childIds) :=
  ids_preorderAll_of fun tree _ => ids_preorder tree

/-- Distinct numbers leave an element with one parent. -/
theorem eq_of_mem_childIds {trees : List Element} (h : ((preorderAll trees).map (·.id)).Nodup)
    {a b : Element} (ha : a ∈ preorderAll trees) (hb : b ∈ preorderAll trees) {n : Nat}
    (hna : n ∈ a.childIds) (hnb : n ∈ b.childIds) : a = b := by
  have hnodup := (List.nodup_append.mp ((ids_preorderAll trees).nodup_iff.mp h)).2.1
  have hpairs := (List.nodup_flatMap.mp hnodup).2
  by_contra hne
  have hsymm : Std.Symm (Function.onFun List.Disjoint childIds) := ⟨fun _ _ => List.disjoint_symm⟩
  exact hpairs.forall ha hb hne hna hnb

/-- A row of a tree stands for its root, without a parent of its own, or for a child of the element
that the row names as its parent. -/
theorem placed_cases {parent : Option Nat} {depth : Nat} {e : Element} {row : Placed}
    (h : row ∈ placed parent depth e) :
    row.facet = e.facet ∧ row.parent = parent ∨
      ∃ a ∈ e.preorder, ∃ child ∈ a.children, row.parent = some a.id ∧ row.facet = child.facet := by
  induction e generalizing parent depth with
  | mk facet children ih =>
      rw [placed, List.mem_cons, placedAll_eq, List.mem_flatMap] at h
      rcases h with rfl | ⟨child, hchild, hrow⟩
      · exact Or.inl ⟨rfl, rfl⟩
      · right
        rcases ih child hchild hrow with ⟨hfacet, hparent⟩ | ⟨a, ha, b, hb, hrest⟩
        · exact ⟨⟨facet, children⟩, mem_preorder_self _, child, hchild, hparent, hfacet⟩
        · refine ⟨a, ?_, b, hb, hrest⟩
          rw [preorder_eq]
          exact List.mem_cons_of_mem _ (mem_preorderAll.mpr ⟨child, hchild, ha⟩)

/-- The rows of a tree stand for its elements, in the same order. -/
theorem placed_facets (parent : Option Nat) (depth : Nat) (e : Element) :
    (placed parent depth e).map (·.facet) = e.preorder.map (·.facet) := by
  induction e generalizing parent depth with
  | mk facet children ih =>
      rw [placed, preorder_eq, List.map_cons, List.map_cons, placedAll_eq, preorderAll_eq,
        List.map_flatMap, List.map_flatMap]
      congr 1
      exact List.flatMap_congr fun child hchild => ih child hchild (some facet.id) (depth + 1)

/-! ## Revising a tree -/

mutual

/-- A tree with its facets edited and with new trees after the children of some elements. -/
def revise (edit : Facet → Facet) (new : Nat → List Element) : Element → Element
  | ⟨facet, children⟩ => ⟨edit facet, reviseAll edit new children ++ new facet.id⟩

/-- `revise` for each of some trees. -/
def reviseAll (edit : Facet → Facet) (new : Nat → List Element) : List Element → List Element
  | [] => []
  | e :: rest => revise edit new e :: reviseAll edit new rest

end

/-- No new trees. -/
def nothing : Nat → List Element := fun _ => []

/-- A new tree after the children of one element. -/
def under (parent : Nat) (tree : Element) : Nat → List Element :=
  fun n => if n = parent then [tree] else []

section

variable {edit : Facet → Facet} {new : Nat → List Element}

theorem reviseAll_eq (edit : Facet → Facet) (new : Nat → List Element) (trees : List Element) :
    reviseAll edit new trees = trees.map (revise edit new) := by
  induction trees with
  | nil => rfl
  | cons e rest ih => rw [reviseAll, ih, List.map_cons]

@[simp] theorem revise_facet : (e : Element) → (revise edit new e).facet = edit e.facet
  | ⟨_, _⟩ => rfl

theorem id_revise (hid : ∀ facet, (edit facet).id = facet.id) (e : Element) :
    (revise edit new e).id = e.id := by
  unfold Element.id
  rw [revise_facet, hid]

theorem kind_revise (hkind : ∀ facet, (edit facet).kind = facet.kind) (e : Element) :
    (revise edit new e).kind = e.kind := by
  unfold Element.kind
  rw [revise_facet, hkind]

theorem can_revise (hkind : ∀ facet, (edit facet).kind = facet.kind) (e : Element)
    (capability : Capability) : (revise edit new e).can capability = e.can capability := by
  unfold Element.can
  rw [kind_revise hkind]

/-- The children stay in their order, and what is new comes after them. -/
theorem revise_children : (e : Element) →
    (revise edit new e).children = e.children.map (revise edit new) ++ new e.id
  | ⟨facet, children⟩ => congrArg (· ++ new facet.id) (reviseAll_eq edit new children)

theorem revise_children_nothing (e : Element) :
    (revise edit nothing e).children = e.children.map (revise edit nothing) := by
  rw [revise_children]
  exact List.append_nil _

theorem revise_preorder (e : Element) :
    (revise edit new e).preorder = revise edit new e ::
      (preorderAll (e.children.map (revise edit new)) ++ preorderAll (new e.id)) := by
  rw [preorder_eq, revise_children, preorderAll_append]

theorem preorder_revise_nothing (e : Element) :
    (revise edit nothing e).preorder = e.preorder.map (revise edit nothing) := by
  induction e with
  | mk facet children ih =>
      have hchildren : preorderAll (children.map (revise edit nothing)) =
          (preorderAll children).map (revise edit nothing) := by
        rw [preorderAll_eq, preorderAll_eq, List.flatMap_map, List.map_flatMap]
        exact List.flatMap_congr ih
      rw [revise_preorder, preorder_eq, List.map_cons, hchildren]
      exact congrArg _ (List.append_nil _)

theorem mem_preorderAll_revise_of {a : Element} {trees : List Element}
    (h : ∀ tree ∈ trees, a ∈ (revise edit new tree).preorder ↔
      (∃ b ∈ tree.preorder, a = revise edit new b) ∨
        ∃ b ∈ tree.preorder, a ∈ preorderAll (new b.id)) :
    a ∈ preorderAll (trees.map (revise edit new)) ↔
      (∃ b ∈ preorderAll trees, a = revise edit new b) ∨
        ∃ b ∈ preorderAll trees, a ∈ preorderAll (new b.id) := by
  rw [mem_preorderAll]
  simp only [List.mem_map, exists_exists_and_eq_and]
  constructor
  · rintro ⟨tree, htree, ha⟩
    rcases (h tree htree).mp ha with ⟨b, hb, heq⟩ | ⟨b, hb, hnew⟩
    · exact Or.inl ⟨b, mem_preorderAll.mpr ⟨tree, htree, hb⟩, heq⟩
    · exact Or.inr ⟨b, mem_preorderAll.mpr ⟨tree, htree, hb⟩, hnew⟩
  · rintro (⟨b, hb, heq⟩ | ⟨b, hb, hnew⟩)
    · obtain ⟨tree, htree, hb⟩ := mem_preorderAll.mp hb
      exact ⟨tree, htree, (h tree htree).mpr (Or.inl ⟨b, hb, heq⟩)⟩
    · obtain ⟨tree, htree, hb⟩ := mem_preorderAll.mp hb
      exact ⟨tree, htree, (h tree htree).mpr (Or.inr ⟨b, hb, hnew⟩)⟩

theorem mem_preorder_revise {a e : Element} :
    a ∈ (revise edit new e).preorder ↔
      (∃ b ∈ e.preorder, a = revise edit new b) ∨
        ∃ b ∈ e.preorder, a ∈ preorderAll (new b.id) := by
  induction e with
  | mk facet children ih =>
      rw [revise_preorder, List.mem_cons, List.mem_append, mem_preorderAll_revise_of ih,
        preorder_eq]
      simp only [List.mem_cons, exists_eq_or_imp, or_assoc, or_left_comm, or_comm]

/-- An element of revised trees is an element of the trees, revised, or it is new. -/
theorem mem_preorderAll_revise {a : Element} {trees : List Element} :
    a ∈ preorderAll (trees.map (revise edit new)) ↔
      (∃ b ∈ preorderAll trees, a = revise edit new b) ∨
        ∃ b ∈ preorderAll trees, a ∈ preorderAll (new b.id) :=
  mem_preorderAll_revise_of fun _ _ => mem_preorder_revise

theorem ids_reviseAll_of {trees : List Element}
    (h : ∀ tree ∈ trees, ((revise edit new tree).preorder.map (·.id)).Perm
      (tree.preorder.map (·.id) ++
        tree.preorder.flatMap fun b => (preorderAll (new b.id)).map (·.id))) :
    ((preorderAll (trees.map (revise edit new))).map (·.id)).Perm
      ((preorderAll trees).map (·.id) ++
        (preorderAll trees).flatMap fun b => (preorderAll (new b.id)).map (·.id)) := by
  rw [preorderAll_eq, preorderAll_eq, List.flatMap_map, List.map_flatMap, List.map_flatMap,
    List.flatMap_assoc]
  exact (List.Perm.flatMap_left trees h).trans (List.flatMap_append_perm ..).symm

theorem ids_revise (hid : ∀ facet, (edit facet).id = facet.id) (e : Element) :
    ((revise edit new e).preorder.map (·.id)).Perm
      (e.preorder.map (·.id) ++
        e.preorder.flatMap fun b => (preorderAll (new b.id)).map (·.id)) := by
  induction e with
  | mk facet children ih =>
      have hhead : (revise edit new ⟨facet, children⟩).id = facet.id := id_revise hid _
      rw [revise_preorder, preorder_eq, List.map_cons, List.map_cons, List.map_append,
        List.flatMap_cons, hhead, List.cons_append]
      refine List.Perm.cons _ (((ids_reviseAll_of ih).append_right _).trans ?_)
      rw [List.append_assoc]
      exact List.Perm.append_left _ List.perm_append_comm

/-- Revised trees have the numbers of the trees and those of the new elements. -/
theorem ids_reviseAll (hid : ∀ facet, (edit facet).id = facet.id) (trees : List Element) :
    ((preorderAll (trees.map (revise edit new))).map (·.id)).Perm
      ((preorderAll trees).map (·.id) ++
        (preorderAll trees).flatMap fun b => (preorderAll (new b.id)).map (·.id)) :=
  ids_reviseAll_of fun tree _ => ids_revise hid tree

theorem mem_under {parent n : Nat} {tree a : Element} :
    a ∈ preorderAll (under parent tree n) ↔ n = parent ∧ a ∈ tree.preorder := by
  unfold under
  split
  next heq => simp [preorderAll, heq]
  next hne => simp [preorderAll, hne]

/-- A tree that is new after the children of one element comes once. -/
theorem nodup_ids_under {parent : Nat} {tree : Element} {elements : List Element}
    (h : (elements.map (·.id)).Nodup) (htree : (tree.preorder.map (·.id)).Nodup) :
    (elements.flatMap fun b => (preorderAll (under parent tree b.id)).map (·.id)).Nodup := by
  refine List.nodup_flatMap.mpr ⟨fun b _ => ?_, ?_⟩
  · unfold under
    split
    next => simpa [preorderAll] using htree
    next => exact List.nodup_nil
  · -- Two elements never both have the number of the parent.
    refine (List.pairwise_map.mp h).imp fun {a b} hne n hna hnb => ?_
    obtain ⟨_, ha, _⟩ := List.mem_map.mp hna
    obtain ⟨_, hb, _⟩ := List.mem_map.mp hnb
    exact hne ((mem_under.mp ha).1.trans (mem_under.mp hb).1.symm)

/-- Every row keeps its parent and its depth. -/
theorem placed_revise (hid : ∀ facet, (edit facet).id = facet.id) {parent : Option Nat}
    {depth : Nat} {e : Element} {row : Placed} (h : row ∈ placed parent depth e) :
    { row with facet := edit row.facet } ∈ placed parent depth (revise edit new e) := by
  induction e generalizing parent depth with
  | mk facet children ih =>
      rw [placed, List.mem_cons, placedAll_eq, List.mem_flatMap] at h
      rw [revise, placed, List.mem_cons, hid, placedAll_eq, List.flatMap_append, reviseAll_eq]
      rcases h with rfl | ⟨child, hchild, hrow⟩
      · exact Or.inl rfl
      · refine Or.inr (List.mem_append_left _ (List.mem_flatMap.mpr ?_))
        exact ⟨_, List.mem_map_of_mem hchild, ih child hchild hrow⟩

theorem revise_congr {edit' : Facet → Facet} {new' : Nat → List Element} {e : Element}
    (hedit : ∀ a ∈ e.preorder, edit a.facet = edit' a.facet)
    (hnew : ∀ a ∈ e.preorder, new a.id = new' a.id) : revise edit new e = revise edit' new' e := by
  induction e with
  | mk facet children ih =>
      have hchildren : ∀ child ∈ children, revise edit new child = revise edit' new' child := by
        intro child hchild
        have hmem : ∀ a ∈ child.preorder, a ∈ (⟨facet, children⟩ : Element).preorder := by
          intro a ha
          rw [preorder_eq]
          exact List.mem_cons_of_mem _ (mem_preorderAll.mpr ⟨child, hchild, ha⟩)
        exact ih child hchild (fun a ha => hedit a (hmem a ha)) fun a ha => hnew a (hmem a ha)
      rw [revise, revise, reviseAll_eq, reviseAll_eq, List.map_congr_left hchildren,
        hedit ⟨facet, children⟩ (mem_preorder_self _)]
      exact congrArg _ (congrArg _ (hnew ⟨facet, children⟩ (mem_preorder_self _)))

theorem revise_same (e : Element) : revise (fun facet => facet) nothing e = e := by
  induction e with
  | mk facet children ih =>
      rw [revise, reviseAll_eq, List.map_congr_left ih, List.map_id']
      exact congrArg _ (List.append_nil _)

theorem revise_of_same {e : Element} (hedit : ∀ a ∈ e.preorder, edit a.facet = a.facet)
    (hnew : ∀ a ∈ e.preorder, new a.id = []) : revise edit new e = e :=
  (revise_congr hedit hnew).trans (revise_same e)

/-- Editing facets once more also reaches what is new. -/
theorem revise_revise (edit' : Facet → Facet) (e : Element) :
    revise edit' nothing (revise edit new e) =
      revise (fun facet => edit' (edit facet))
        (fun n => (new n).map (revise edit' nothing)) e := by
  induction e with
  | mk facet children ih =>
      have hchildren := List.map_congr_left ih
      rw [revise, revise, revise, reviseAll_eq, reviseAll_eq, reviseAll_eq, List.map_append,
        List.map_map]
      exact congrArg _ ((List.append_nil _).trans (congrArg (· ++ _) hchildren))

end

/-- Where the numbers are distinct, modifying one element is a revision of the tree. -/
theorem modify_eq_revise {id : Nat} {f : Element → Element} {edit : Facet → Facet}
    {new : Nat → List Element}
    (hf : ∀ e : Element, e.id = id → f e = ⟨edit e.facet, e.children ++ new e.id⟩)
    (hedit : ∀ facet : Facet, facet.id ≠ id → edit facet = facet)
    (hnew : ∀ n, n ≠ id → new n = []) {e : Element} (h : (e.preorder.map (·.id)).Nodup) :
    modify id f e = revise edit new e := by
  induction e with
  | mk facet children ih =>
      rw [preorder_eq, List.map_cons, List.nodup_cons] at h
      obtain ⟨hhead, htail⟩ := h
      rw [modify, revise, reviseAll_eq]
      split
      next hid =>
        -- Nothing inside has the number of the element itself.
        have hother : ∀ child ∈ children, ∀ a ∈ child.preorder, a.id ≠ id := by
          intro child hchild a ha heq
          exact hhead (List.mem_map.mpr
            ⟨a, mem_preorderAll.mpr ⟨child, hchild, ha⟩, heq.trans hid.symm⟩)
        have hsame : ∀ child ∈ children, revise edit new child = child := fun child hchild =>
          revise_of_same (fun a ha => hedit a.facet (hother child hchild a ha))
            fun a ha => hnew a.id (hother child hchild a ha)
        rw [hf ⟨facet, children⟩ hid, List.map_congr_left hsame, List.map_id']
        rfl
      next hid =>
        have hchildren : ∀ child ∈ children, modify id f child = revise edit new child := by
          intro child hchild
          exact ih child hchild (((preorder_sublist hchild).map _).nodup htail)
        rw [modifyAll_eq, List.map_congr_left hchildren, hedit facet hid, hnew facet.id hid,
          List.append_nil]

end DesignBridge.Element
