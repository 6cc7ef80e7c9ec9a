import DesignBridge.Proofs.Document.Frame

/-! # Building trees

What is built for a node has the shape of the node: one element for each node, in the same places,
which shows what the node declares. It is numbered without a gap in document order, and it stands
behind all that was inside its parent before.
-/

namespace DesignBridge

namespace Node

mutual

/-- How many nodes there are in a node, with itself. -/
def size : Node → Nat
  | ⟨_, _, _, _, _, children⟩ => sizeInside children + 1

/-- How many nodes there are inside a node. -/
def sizeInside : Option (List Node) → Nat
  | none => 0
  | some nodes => sizeAll nodes

/-- How many nodes there are in some nodes. -/
def sizeAll : List Node → Nat
  | [] => 0
  | node :: rest => size node + sizeAll rest

end

/-- The attributes that a node declares: its identifier, unless that is empty, and then the others
as they are given. -/
def declared (node : Node) : Entries Runes :=
  ((node.oid.filter (· ≠ ↑"")).toList.map fun oid => ((identifierAttribute : Runes), oid)) ++
    (node.attributes.map (·.table.entries)).getD []

end Node

/-- Whether an element by itself shows what a node declares, and nothing else. -/
structure Facet.Shows (facet : Facet) (node : Node) : Prop where
  kind : facet.kind = .dom
  tag : facet.tag = some node.tag.text
  attributes : facet.attributes.entries = node.declared
  properties : facet.properties = node.styles.getD .empty
  text : facet.text = node.text.filter (· ≠ ↑"")
  styles : facet.styles = []
  asset : facet.asset = none
  alt : facet.alt = none

/-- Whether an element shows what a node declares and its children, one by one, do so for the nodes
inside. -/
inductive Element.Mirrors : Element → Node → Prop
  | intro {facet : Facet} {children : List Element} {node : Node} (hshows : facet.Shows node)
      (hchildren : List.Forall₂ Mirrors children (node.children.getD [])) :
      Mirrors ⟨facet, children⟩ node

namespace Sketch

/-- The identifier is not among the attributes that are given. -/
theorem entries_insertAll_given {tagged : Table Runes}
    (h : ∀ name ∈ tagged.keys, name = identifierAttribute) (given : Attributes) :
    (tagged.insertAll given.table.entries).entries = tagged.entries ++ given.table.entries := by
  have hfree : ↑identifierAttribute ∉ given.table.keys := by
    have hcontains := given.free
    rwa [Table.contains, List.contains_eq_mem, decide_eq_false_iff_not] at hcontains
  refine Table.entries_insertAll (List.nodup_append.mpr
    ⟨tagged.nodup, given.table.nodup, fun name hname other hother heq => ?_⟩)
  rw [← heq, h name hname] at hother
  exact hfree hother

theorem attributesOf_entries (oid : Option Runes) (attributes : Option Attributes) :
    (attributesOf identifierAttribute oid attributes).entries =
      ((oid.filter (· ≠ ↑"")).toList.map fun oid => ((identifierAttribute : Runes), oid)) ++
        (attributes.map (·.table.entries)).getD [] := by
  have hnothing : ∀ name ∈ (Table.empty : Table Runes).keys, name = identifierAttribute :=
    fun _ hname => absurd hname List.not_mem_nil
  have htagged : ∀ oid : Runes,
      ∀ name ∈ ((Table.empty : Table Runes).insert identifierAttribute oid).keys,
      name = identifierAttribute := fun _ _ hname => List.mem_singleton.mp hname
  unfold attributesOf
  cases oid with
  | none =>
      cases attributes with
      | none => rfl
      | some given => exact entries_insertAll_given hnothing given
  | some oid =>
      by_cases hempty : oid = ""
      · subst hempty
        cases attributes with
        | none => rfl
        | some given => exact entries_insertAll_given hnothing given
      · have hkept : (some oid).filter (· ≠ ↑"") = some oid := by simp [hempty]
        rw [hkept]
        simp only [hempty, if_false]
        cases attributes with
        | none => rfl
        | some given => exact entries_insertAll_given (htagged oid) given

mutual

/-- A node becomes an element of its shape, with as many numbers as there are nodes in it. -/
theorem place_ofNode (next : Nat) : (node : Node) →
    ((ofNode identifierAttribute node).place next).1.Mirrors node ∧
      ((ofNode identifierAttribute node).place next).2 = next + node.size
  | ⟨_, _, _, _, _, children⟩ => by
      obtain ⟨hchildren, hnext⟩ := place_ofChildren (next + 1) children
      rw [ofNode, place]
      refine ⟨.intro ⟨rfl, rfl, attributesOf_entries .., rfl, rfl, rfl, rfl, rfl⟩ hchildren, ?_⟩
      rw [Node.size, hnext]
      omega

theorem place_ofChildren (next : Nat) : (children : Option (List Node)) →
    List.Forall₂ Element.Mirrors (placeAll next (ofChildren identifierAttribute children)).1
        (children.getD []) ∧
      (placeAll next (ofChildren identifierAttribute children)).2 = next + Node.sizeInside children
  | none => ⟨.nil, rfl⟩
  | some nodes => place_ofNodes next nodes

theorem place_ofNodes (next : Nat) : (nodes : List Node) →
    List.Forall₂ Element.Mirrors (placeAll next (ofNodes identifierAttribute nodes)).1 nodes ∧
      (placeAll next (ofNodes identifierAttribute nodes)).2 = next + Node.sizeAll nodes
  | [] => ⟨.nil, rfl⟩
  | node :: rest => by
      obtain ⟨hnode, hfirst⟩ := place_ofNode next node
      obtain ⟨hrest, hnext⟩ := place_ofNodes
        ((ofNode identifierAttribute node).place next).2 rest
      rw [ofNodes, placeAll, Node.sizeAll]
      refine ⟨.cons hnode hrest, ?_⟩
      rw [hnext, hfirst, Nat.add_assoc]

end

end Sketch

namespace Element

variable {root e tree : Element} {trees : List Element}

/-- A tree without the parent stays as it is. -/
theorem revise_under_of_ne {parent : Nat} (h : ∀ a ∈ e.preorder, a.id ≠ parent) :
    e.revise (fun facet => facet) (under parent tree) = e :=
  revise_of_same (fun _ _ => rfl) fun a ha => if_neg (h a ha)

theorem map_revise_under_of_ne {parent : Nat} (h : ∀ a ∈ preorderAll trees, a.id ≠ parent) :
    trees.map (revise (fun facet => facet) (under parent tree)) = trees := by
  have hsame : ∀ a ∈ trees, a.revise (fun facet => facet) (under parent tree) = a := fun a ha =>
    revise_under_of_ne fun b hb => h b (mem_preorderAll.mpr ⟨a, ha, hb⟩)
  rw [List.map_congr_left hsame, List.map_id']

/-- Where the numbers are distinct, the new tree is behind the children of the parent alone. -/
theorem revise_under_self (h : (e.preorder.map (·.id)).Nodup) :
    e.revise (fun facet => facet) (under e.id tree) = e.append tree := by
  rw [preorder_eq, List.map_cons, List.nodup_cons] at h
  have hchildren : e.children.map (revise (fun facet => facet) (under e.id tree)) = e.children :=
    map_revise_under_of_ne fun a ha heq => h.1 (List.mem_map.mpr ⟨a, ha, heq⟩)
  have hnew : under e.id tree e.id = [tree] := if_pos rfl
  cases e with
  | mk facet children =>
      rw [revise, reviseAll_eq, hchildren]
      exact congrArg _ (congrArg _ hnew)

/-- The facets of a tree in document order. -/
def facets (e : Element) : List Facet :=
  e.preorder.map (·.facet)

theorem facets_eq (e : Element) : e.facets = e.facet :: e.children.flatMap facets := by
  unfold facets
  rw [preorder_eq, preorderAll_eq, List.map_cons, List.map_flatMap]

/-- A new tree comes behind all that was inside its parent before; what was there keeps its
order. -/
theorem facets_revise_under (tree : Element) (h : (root.preorder.map (·.id)).Nodup)
    (he : e ∈ root.preorder) :
    ∃ front back, root.facets = front ++ e.facets ++ back ∧
      (root.revise (fun facet => facet) (under e.id tree)).facets =
        front ++ e.facets ++ tree.facets ++ back := by
  induction root with
  | mk facet children ih =>
      rw [preorder_eq] at he
      rcases List.mem_cons.mp he with rfl | he
      · refine ⟨[], [], by simp, ?_⟩
        rw [revise_under_self h, facets_eq, facets_eq ⟨facet, children⟩]
        simp [append]
      · obtain ⟨child, hchild, hmem⟩ := mem_preorderAll.mp he
        obtain ⟨before, after, rfl⟩ := List.append_of_mem hchild
        rw [preorder_eq, List.map_cons, List.nodup_cons] at h
        obtain ⟨hhead, hinside⟩ := h
        rw [preorderAll_append, preorderAll, List.map_append, List.map_append] at hinside
        obtain ⟨-, hbehind, hbefore⟩ := List.nodup_append.mp hinside
        obtain ⟨hdistinct, -, hafter⟩ := List.nodup_append.mp hbehind
        have hid : e.id ∈ child.preorder.map (·.id) := List.mem_map_of_mem hmem
        -- The parent is in one child; the trees on both sides of it stay.
        have hfront : before.map (revise (fun facet => facet) (under e.id tree)) = before :=
          map_revise_under_of_ne fun a ha heq =>
            hbefore _ (List.mem_map_of_mem ha) _ (List.mem_append_left _ hid) heq
        have hback : after.map (revise (fun facet => facet) (under e.id tree)) = after :=
          map_revise_under_of_ne fun a ha heq =>
            hafter _ hid _ (List.mem_map_of_mem ha) heq.symm
        have hnone : under e.id tree facet.id = [] :=
          if_neg fun heq => hhead (List.mem_map.mpr ⟨e, he, heq.symm⟩)
        obtain ⟨front, back, hold, hnew⟩ := ih child hchild hdistinct hmem
        refine ⟨facet :: (before.flatMap facets ++ front), back ++ after.flatMap facets, ?_, ?_⟩
        · rw [facets_eq]
          simp [hold]
        · have hchildren : (revise (fun facet => facet) (under e.id tree)
              ⟨facet, before ++ child :: after⟩).children =
              before ++ child.revise (fun facet => facet) (under e.id tree) :: after := by
            rw [revise, hnone, List.append_nil, reviseAll_eq, List.map_append, List.map_cons,
              hfront, hback]
          rw [facets_eq, hchildren]
          simp [hnew]

end Element

namespace Interpreter

open Document
open Element (under)

/-- The parent that a choice stands for: what is selected, where that is chosen and can hold
elements, and otherwise the root of the page, if it can hold elements. -/
inductive Chosen (d : Document) (choice : ParentChoice) (parent : Element) : Prop
  | selected (hchoice : choice = .selected) (hselected : d.selection? = some parent)
      (hcan : parent.can .children = true)
  | root (hnot : choice = .selected → ∀ e, d.selection? = some e → e.can .children = false)
      (hroot : d.root? = some parent) (hcan : parent.can .children = true)

section

variable {i : Interpreter} {d : Document} {choice : ParentChoice} {parent : Element}

theorem Chosen.can (h : Chosen d choice parent) : parent.can .children = true := by
  cases h with
  | selected _ _ hcan | root _ _ hcan => exact hcan

theorem Chosen.parentFor_eq (h : Chosen d choice parent) : parentFor choice d = .ok parent := by
  unfold parentFor
  cases h with
  | selected hchoice hselected hcan =>
      have hfilter : d.selection?.filter (·.can .children) = some parent :=
        Option.filter_eq_some_iff.mpr ⟨hselected, hcan⟩
      rw [if_pos hchoice, hfilter]
  | root hnot hroot hcan =>
      have hnone : (if choice = .selected then d.selection?.filter (·.can .children) else none) =
          none := by
        split
        next hchoice =>
          refine Option.filter_eq_none_iff.mpr fun e he => ?_
          rw [hnot hchoice e he]
          exact Bool.false_ne_true
        next => rfl
      have hfilter : d.root?.filter (·.can .children) = some parent :=
        Option.filter_eq_some_iff.mpr ⟨hroot, hcan⟩
      dsimp only
      rw [hnone, hfilter]

/-- The parent is on the current page. -/
theorem Chosen.current (h : Chosen d choice parent) (hd : d.WellFormed) :
    ∃ root, d.root? = some root ∧ parent ∈ root.preorder := by
  cases h with
  | selected _ hselected =>
      obtain ⟨id, hid, _⟩ := Option.bind_eq_some_iff.mp hselected
      obtain ⟨root, e, hroot, he, hfound⟩ := hd.selection?_eq hid
      obtain rfl := Option.some.inj (hselected.symm.trans hfound)
      exact ⟨root, hroot, he⟩
  | root _ hroot => exact ⟨parent, hroot, Element.mem_preorder_self parent⟩

theorem Chosen.step_eq (h : Chosen d choice parent) {node : Node} {instruction : Instruction}
    (hinstruction : instruction.operation = .ok (.buildTree choice node)) :
    i.step d instruction =
      (d.attached parent (Sketch.ofNode i.key node), ⟨instruction.name, true,
        .object [("parentType", .text choice.name), ("elementId", .text (elementId
          ((Sketch.ofNode i.key node).place d.nextElement).1.id))], none⟩) := by
  unfold step
  rw [hinstruction]
  dsimp only [perform]
  unfold buildTree
  rw [h.parentFor_eq]
  dsimp only
  rw [attach_ok d _ h.can]
  rfl

end

/-- Building a tree in a well-formed document succeeds where there is a parent for it, and it builds
just that tree: the parent has one child more, after the others, and the report names it; the tree
that begins there has the shape of the node and shows what the nodes in it declare. Its elements
have the next numbers in document order. Nothing else changes, and in the document order of the page
the tree comes right behind what was inside the parent. -/
theorem trees_built (i : Interpreter) (hkey : i.key = identifierAttribute) {d : Document}
    (h : d.WellFormed) {choice : ParentChoice} {node : Node} {parent : Element}
    (hparent : Chosen d choice parent) {instruction : Instruction}
    (hinstruction : instruction.operation = .ok (.buildTree choice node)) :
    ∃ after tree,
      i.step d instruction = (after, ⟨instruction.name, true,
        .object [("parentType", .text choice.name), ("elementId", .text (elementId tree.id))],
        none⟩) ∧
      after.WellFormed ∧
      after = { d.revise (fun facet => facet) (under parent.id tree) with
        nextElement := d.nextElement + node.size } ∧
      ⟨parent.facet, parent.children ++ [tree]⟩ ∈ after.elements ∧
      tree.Mirrors node ∧
      tree.preorder.map (·.id) = List.range' d.nextElement node.size ∧
      (∀ e ∈ d.everything, e.id < d.nextElement) ∧
      ∃ before later front back, d.currentElements = .ok before ∧
        after.currentElements = .ok later ∧
        before.map (·.facet) = front ++ parent.facets ++ back ∧
        later.map (·.facet) = front ++ parent.facets ++ tree.facets ++ back := by
  obtain ⟨hmirrors, hnext⟩ := Sketch.place_ofNode d.nextElement node
  obtain ⟨count, hcount, hids⟩ :=
    (Sketch.ofNode identifierAttribute node).ids_place d.nextElement
  have hsize : count + 1 = node.size := by omega
  obtain ⟨root, hroot, hmem⟩ := hparent.current h
  have hinside : parent ∈ d.elements := mem_elements.mpr ⟨root, root?_mem hroot, hmem⟩
  have hdistinct : (root.preorder.map (·.id)).Nodup := h.distinct_root hroot
  have hself : (parent.preorder.map (·.id)).Nodup :=
    ((Element.preorder_sublist_of_mem hmem).map _).nodup hdistinct
  have hstep := hparent.step_eq (i := i) hinstruction
  rw [hkey] at hstep
  have hgrown := h.attached_grown hinside hparent.can
    (Sketch.capable_ofNode identifierAttribute node)
  have hafter := attached_eq_revise parent (Sketch.ofNode identifierAttribute node) h.distinct
  rw [hnext] at hafter
  generalize ((Sketch.ofNode identifierAttribute node).place d.nextElement).1 = tree at *
  generalize d.attached parent (Sketch.ofNode identifierAttribute node) = after at *
  refine ⟨after, tree, hstep, h.grown hgrown, hafter, ?_, hmirrors, hsize ▸ hids, h.numbered, ?_⟩
  · have hkept := hgrown.revised.elements hinside
    rwa [Element.revise_under_self hself] at hkept
  · obtain ⟨front, back, hbefore, hlater⟩ := Element.facets_revise_under tree hdistinct hmem
    have hroot' : after.root? = some (root.revise (fun facet => facet) (under parent.id tree)) := by
      have hrevised := root?_revise (fun facet => facet) (under parent.id tree) d
      rw [hroot] at hrevised
      rw [hafter]
      exact hrevised
    exact ⟨_, _, front, back, currentElements_eq hroot, currentElements_eq hroot', hbefore, hlater⟩

/-- A list with one entry is built in a box that is selected. -/
theorem trees_built_selected :
    let i : Interpreter := ⟨"data-oid", .int 0⟩
    let box : Node := ⟨⟨"div", by decide, by decide⟩, some "box", none, none, none, none⟩
    let d := (i.run .fresh [.ready (.buildTree .root box), .ready (.buildTree .root box)]).1.select
      (some 2)
    let list : Node := ⟨⟨"ul", by decide, by decide⟩, some "list", some "",
      some ⟨.ofList [("role", "menu")], by decide⟩, none,
      some [⟨⟨"li", by decide, by decide⟩, none, some "Hello", none, none, none⟩]⟩
    ∃ (after : Document) (tree : Element),
      i.step d (.ready (.buildTree .selected list)) = (after, ⟨"BUILD_TREE", true,
        .object [("parentType", .text "selected"), ("elementId", .text (elementId tree.id))],
        none⟩) ∧
      tree.Mirrors list ∧ tree.preorder.map (·.id) = [4, 5] := by
  intro i box d list
  have hbuilt : d.Reachable := by
    refine .selected (.executed .fresh i _) fun n hn => ?_
    obtain rfl := Option.some.inj hn
    exact ⟨_, rfl, _, List.mem_cons_of_mem _ List.mem_cons_self, rfl⟩
  have hselected : d.selection?.any (·.can .children) = true := by decide +kernel
  obtain ⟨parent, hparent, hcan⟩ := (Option.any_eq_true _ _).mp hselected
  have hready : Instruction.operation (.ready (.buildTree .selected list)) =
      .ok (.buildTree .selected list) := rfl
  obtain ⟨after, tree, hstep, -, -, -, hmirrors, hids, -⟩ :=
    trees_built i rfl hbuilt.wellFormed.1 (.selected rfl hparent hcan) hready
  exact ⟨after, tree, hstep, hmirrors, hids⟩

end Interpreter

end DesignBridge
