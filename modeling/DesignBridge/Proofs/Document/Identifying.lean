import DesignBridge.Proofs.Document.Building
import DesignBridge.Proofs.Document.Path

/-! # Identifiers of built trees

The elements that are built for a node and the nodes inside it come in the order of the nodes. Each
carries the identifier of its node, unless the node gives a value of its own under the name that
identifiers are stored under. No node can do so under the name that is reserved. Under any other
name the value that is given takes the place of the identifier.
-/

namespace DesignBridge

theorem lookup_eq_none_of_not_mem {α : Type} {entries : Entries α} {name : Runes}
    (h : name ∉ entries.keys) : entries.lookup name = none := by
  refine List.lookup_eq_none_iff.mpr fun entry hentry => ?_
  have hne : name ≠ entry.1 := fun heq => h (heq ▸ List.mem_map_of_mem hentry)
  simpa using hne

theorem Table.get?_insertAll {α : Type} (table : Table α) {entries : Entries α}
    (h : entries.keys.Nodup) (name : Runes) :
    (table.insertAll entries).get? name = (entries.lookup name).or (table.get? name) := by
  induction entries generalizing table with
  | nil => rfl
  | cons head rest ih =>
      obtain ⟨other, value⟩ := head
      obtain ⟨hhead, hrest⟩ := List.nodup_cons.mp h
      have hstep : (table.insertAll ((other, value) :: rest)).get? name =
          (rest.lookup name).or ((table.insert other value).get? name) := ih _ hrest
      rw [hstep, get?_insert, List.lookup_cons]
      by_cases hname : name = other
      · subst hname
        rw [lookup_eq_none_of_not_mem hhead, if_pos rfl, beq_self_eq_true]
        rfl
      · rw [if_neg hname, beq_eq_false_iff_ne.mpr hname]

namespace Node

mutual

/-- A node and all nodes inside it, in the order in which they are written. -/
def preorder : Node → List Node
  | ⟨tag, oid, text, attributes, styles, children⟩ =>
    ⟨tag, oid, text, attributes, styles, children⟩ :: preorderInside children

/-- The nodes inside a node. -/
def preorderInside : Option (List Node) → List Node
  | none => []
  | some nodes => preorderAll nodes

/-- Some nodes and all nodes inside them. -/
def preorderAll : List Node → List Node
  | [] => []
  | node :: rest => preorder node ++ preorderAll rest

end

/-- The identifier of a node, unless that is empty. -/
def mark? (node : Node) : Option Runes :=
  node.oid.filter (· ≠ ↑"")

/-- The value that a node gives under a name. -/
def given? (node : Node) (name : Runes) : Option Runes :=
  node.attributes.bind (·.table.get? name)

/-- No node gives a value under the reserved name. -/
theorem given?_identifierAttribute (node : Node) : node.given? identifierAttribute = none := by
  unfold given?
  cases node.attributes with
  | none => rfl
  | some given =>
      have hfree := given.free
      rw [Table.contains, List.contains_eq_mem, decide_eq_false_iff_not] at hfree
      exact lookup_eq_none_of_not_mem hfree

end Node

/-- Whether an element is what is built for a node. -/
structure Element.BuiltFrom (key : Runes) (e : Element) (node : Node) : Prop where
  kind : e.kind = .dom
  tag : e.facet.tag = some node.tag.text
  attributes : e.facet.attributes = Sketch.attributesOf key node.oid node.attributes
  properties : e.facet.properties = node.styles.getD .empty
  text : e.facet.text = node.text.filter (· ≠ ↑"")
  children : e.children.length = (node.children.getD []).length

namespace Sketch

/-- Without attributes that are given, an identifier is all there is. -/
theorem get?_attributesOf_none (key : Runes) (oid : Option Runes) :
    (attributesOf key oid none).get? key = oid.filter (· ≠ ↑"") := by
  unfold attributesOf
  cases oid with
  | none => rfl
  | some s =>
      dsimp only
      by_cases hempty : s = ""
      · subst hempty
        rfl
      · have hkept : (some s).filter (· ≠ ↑"") = some s := by simp [hempty]
        rw [if_neg hempty, Table.get?_insert, if_pos rfl, hkept]

/-- What a node gives under the name of the identifier takes the place of the identifier. -/
theorem get?_attributesOf (key : Runes) (node : Node) :
    (attributesOf key node.oid node.attributes).get? key = (node.given? key).or node.mark? := by
  obtain ⟨_, oid, _, attributes, _, _⟩ := node
  have hmark := get?_attributesOf_none key oid
  cases attributes with
  | none => exact hmark
  | some given => exact (Table.get?_insertAll _ given.table.nodup key).trans (congrArg _ hmark)

mutual

theorem builtFrom_place (key : Runes) (next : Nat) : (node : Node) →
    List.Forall₂ (Element.BuiltFrom key) ((ofNode key node).place next).1.preorder node.preorder
  | ⟨_, _, _, _, _, children⟩ => by
      obtain ⟨hlength, hchildren⟩ := builtFrom_placeChildren key (next + 1) children
      rw [ofNode, place, Element.preorder_eq, Node.preorder]
      exact .cons ⟨rfl, rfl, rfl, rfl, rfl, hlength⟩ hchildren

theorem builtFrom_placeChildren (key : Runes) (next : Nat) : (children : Option (List Node)) →
    (placeAll next (ofChildren key children)).1.length = (children.getD []).length ∧
      List.Forall₂ (Element.BuiltFrom key)
        (Element.preorderAll (placeAll next (ofChildren key children)).1)
        (Node.preorderInside children)
  | none => ⟨rfl, .nil⟩
  | some nodes => by
      rw [ofChildren, Node.preorderInside]
      exact builtFrom_placeAll key next nodes

theorem builtFrom_placeAll (key : Runes) (next : Nat) : (nodes : List Node) →
    (placeAll next (ofNodes key nodes)).1.length = nodes.length ∧
      List.Forall₂ (Element.BuiltFrom key)
        (Element.preorderAll (placeAll next (ofNodes key nodes)).1) (Node.preorderAll nodes)
  | [] => ⟨rfl, .nil⟩
  | node :: rest => by
      have hnode := builtFrom_place key next node
      obtain ⟨hlength, hrest⟩ :=
        builtFrom_placeAll key ((ofNode key node).place next).2 rest
      rw [ofNodes, placeAll, Node.preorderAll]
      exact ⟨congrArg (· + 1) hlength, List.rel_append hnode hrest⟩

end

end Sketch

namespace Element

/-- The elements of a page that are numbered from a number on, where a new tree has these numbers:
they are those of the tree, in its order. -/
theorem filter_revise_under {root e tree : Element} {next : Nat}
    (hdistinct : (root.preorder.map (·.id)).Nodup) (he : e ∈ root.preorder)
    (hold : ∀ a ∈ root.preorder, a.id < next) (hnew : ∀ a ∈ tree.preorder, next ≤ a.id) :
    (root.revise (fun facet => facet) (under e.id tree)).preorder.filter (next ≤ ·.id) =
      tree.preorder := by
  obtain ⟨front, back, hbefore, hafter⟩ := facets_revise_under tree hdistinct he
  have hself : (e.preorder.map (·.id)).Nodup := ((preorder_sublist_of_mem he).map _).nodup hdistinct
  -- The tree is on the page, so that its elements are among the new ones.
  have hsublist : tree.preorder.Sublist
      ((root.revise (fun facet => facet) (under e.id tree)).preorder.filter (next ≤ ·.id)) := by
    have hparent :
        e.append tree ∈ (root.revise (fun facet => facet) (under e.id tree)).preorder := by
      rw [← revise_under_self hself]
      exact mem_preorder_revise.mpr (Or.inl ⟨e, he, rfl⟩)
    have htree : tree ∈ (e.append tree).children :=
      List.mem_append_right _ (List.mem_singleton_self _)
    have hinside := preorder_sublist_of_mem (mem_preorder_of_mem_children hparent htree)
    have hall : tree.preorder.filter (next ≤ ·.id) = tree.preorder :=
      List.filter_eq_self.mpr fun a ha => decide_eq_true (hnew a ha)
    exact hall ▸ hinside.filter _
  -- There are no more new ones, since what was on the page has smaller numbers.
  have hfacets : ((root.revise (fun facet => facet) (under e.id tree)).preorder.filter
      (next ≤ ·.id)).map (·.facet) = tree.facets := by
    have hsmall : ∀ facet ∈ root.facets, facet.id < next := by
      intro facet hfacet
      obtain ⟨a, ha, rfl⟩ := List.mem_map.mp hfacet
      exact hold a ha
    have hlarge : tree.facets.filter (next ≤ ·.id) = tree.facets := by
      refine List.filter_eq_self.mpr fun facet hfacet => ?_
      obtain ⟨a, ha, rfl⟩ := List.mem_map.mp hfacet
      exact decide_eq_true (hnew a ha)
    have hnone : ∀ part : List Facet, (∀ facet ∈ part, facet ∈ root.facets) →
        part.filter (next ≤ ·.id) = [] := by
      intro part hpart
      refine List.filter_eq_nil_iff.mpr fun facet hfacet => ?_
      have hlt := hsmall facet (hpart facet hfacet)
      rw [decide_eq_true_eq]
      omega
    have hcomm := List.filter_map (f := (·.facet))
      (p := fun facet : Facet => decide (next ≤ facet.id))
      (l := (root.revise (fun facet => facet) (under e.id tree)).preorder)
    refine hcomm.symm.trans ?_
    unfold facets at hafter
    rw [hafter, List.filter_append, List.filter_append, hnone back, hnone (front ++ _)]
    · rw [List.nil_append, List.append_nil]
      exact hlarge
    · intro facet hfacet
      rw [hbefore]
      exact List.mem_append_left _ hfacet
    · intro facet hfacet
      rw [hbefore]
      exact List.mem_append_right _ hfacet
  have hlength := congrArg List.length hfacets
  unfold facets at hlength
  rw [List.length_map, List.length_map] at hlength
  exact (hsublist.eq_of_length hlength.symm).symm

end Element

namespace Element

/-- The elements among some that stand at the places of the nodes with an identifier. -/
def marked (elements : List Element) (nodes : List Node) (oid : Runes) : List Element :=
  ((elements.zip nodes).filter fun (_, node) => node.mark? = some oid).map Prod.fst

end Element

namespace Document

open Element (under)

/-- What is found by an identifier among elements that carry just the identifiers of some nodes. -/
theorem filter_carries_eq_marked {key : Runes} {elements : List Element} {nodes : List Node}
    (hkinds : List.Forall₂ (fun e _ => e.kind = .dom) elements nodes)
    (h : List.Forall₂ (fun e n => e.facet.attributes.get? key = n.mark?) elements nodes)
    (oid : Runes) : elements.filter (carries key oid) = Element.marked elements nodes oid := by
  induction h with
  | nil => rfl
  | @cons e n elements nodes hmark _ ih =>
      obtain ⟨hkind, hkinds⟩ := List.forall₂_cons.mp hkinds
      have hcan : e.can .attributes = true := by
        unfold Element.can
        rw [hkind]
        rfl
      have hcarries : carries key oid e = decide (n.mark? = some oid) := by
        unfold carries
        rw [hcan, hmark, Bool.true_and, beq_eq_decide]
      unfold Element.marked at ih ⊢
      rw [List.filter_cons, hcarries, List.zip_cons_cons, List.filter_cons, ih hkinds]
      split <;> rfl

/-- A tree that is built under any name for identifiers is put into the page as it was declared, one
element for each node in the order of the nodes, with these elements being all that is new. Each
carries the identifier of its node, if no node gives a value of its own under that name, which none
can under the reserved name; then each identifier finds, among what is new, the elements of just the
nodes that have it. A value that is given takes the place of the identifier. -/
theorem identifiers_found_unless_given (key : Runes) {d : Document} (h : d.WellFormed)
    {root parent : Element} (hroot : d.root? = some root) (hparent : parent ∈ root.preorder)
    (hcan : parent.can .children = true) (node : Node) :
    ∃ (after : Document) (tree : Element) (later : List Element),
      d.attach parent (Sketch.ofNode key node) = .ok (after, tree.id) ∧
      after.currentElements = .ok later ∧
      later.filter (d.nextElement ≤ ·.id) = tree.preorder ∧
      List.Forall₂ (Element.BuiltFrom key) tree.preorder node.preorder ∧
      List.Forall₂ (fun e n => e.facet.attributes.get? key = (n.given? key).or n.mark?)
        tree.preorder node.preorder ∧
      (key = identifierAttribute ∨ (∀ n ∈ node.preorder, n.given? key = none) →
        List.Forall₂ (fun e n => e.facet.attributes.get? key = n.mark?)
          tree.preorder node.preorder ∧
        ∀ oid, ∃ found, after.findAll key oid = .ok found ∧
          found.filter (d.nextElement ≤ ·.id) =
            Element.marked tree.preorder node.preorder oid) := by
  have hbuilt := Sketch.builtFrom_place key d.nextElement node
  have hinside : parent ∈ d.elements := mem_elements.mpr ⟨root, root?_mem hroot, hparent⟩
  have hgrown := h.attached_grown hinside hcan (Sketch.capable_ofNode key node)
  have hafter := attached_eq_revise parent (Sketch.ofNode key node) h.distinct
  have hattach := attach_ok d (Sketch.ofNode key node) hcan
  generalize ((Sketch.ofNode key node).place d.nextElement).1 = tree at *
  generalize d.attached parent (Sketch.ofNode key node) = after at *
  have hroot' : after.root? = some (root.revise (fun facet => facet) (under parent.id tree)) := by
    have hrevised := root?_revise (fun facet => facet) (under parent.id tree) d
    rw [hroot] at hrevised
    rw [hafter]
    exact hrevised
  have hnew := Element.filter_revise_under (h.distinct_root hroot) hparent
    (fun a ha => h.numbered a (mem_everything_of_mem_elements
      (mem_elements.mpr ⟨root, root?_mem hroot, ha⟩))) fun a ha => (hgrown.fresh a ha).1
  have hvalues : List.Forall₂
      (fun e n => e.facet.attributes.get? key = (n.given? key).or n.mark?)
      tree.preorder node.preorder := by
    refine hbuilt.imp fun e n hen => ?_
    rw [hen.attributes]
    exact Sketch.get?_attributesOf key n
  refine ⟨after, tree, _, hattach, currentElements_eq hroot', hnew, hbuilt, hvalues,
    fun hfree => ?_⟩
  have hfree : ∀ n ∈ node.preorder, n.given? key = none := by
    rcases hfree with rfl | hfree
    · exact fun n _ => n.given?_identifierAttribute
    · exact hfree
  have hmarks : List.Forall₂ (fun e n => e.facet.attributes.get? key = n.mark?)
      tree.preorder node.preorder := by
    obtain ⟨hlength, hzip⟩ := List.forall₂_iff_zip.mp hvalues
    refine List.forall₂_iff_zip.mpr ⟨hlength, fun hmem => ?_⟩
    rw [hzip hmem, hfree _ (List.of_mem_zip hmem).2, Option.none_or]
  refine ⟨hmarks, fun oid => ⟨_, findAll_eq hroot' key oid, ?_⟩⟩
  rw [List.filter_comm, hnew]
  exact filter_carries_eq_marked (hbuilt.imp fun _ _ hen => hen.kind) hmarks oid

/-- The parts of a list that is marked under a name of its own are found by their identifiers. -/
theorem identifiers_found_in_list :
    let item (oid : Option Runes) : Node :=
      ⟨⟨"li", by decide, by decide⟩, oid, some "Hello", none, none, none⟩
    let list : Node := ⟨⟨"ul", by decide, by decide⟩, some "list", none,
      some ⟨.ofList [("role", "menu")], by decide⟩, none,
      some [item (some "entry"), item none, item (some "entry")]⟩
    ∃ (after : Document) (tree : Element) (found : List Element),
      fresh.attach (newRoot 1) (Sketch.ofNode "data-id" list) = .ok (after, tree.id) ∧
        tree.preorder.map (·.facet.attributes.get? "data-id") =
          [some ↑"list", some ↑"entry", none, some ↑"entry"] ∧
        after.findAll "data-id" "entry" = .ok found ∧
        found.filter (2 ≤ ·.id) = Element.marked tree.preorder list.preorder "entry" := by
  intro item list
  have hgiven : ∀ n ∈ list.preorder, n.given? "data-id" = none := by decide +kernel
  obtain ⟨after, tree, -, hattach, -, -, -, -, hmarked⟩ :=
    identifiers_found_unless_given "data-id" fresh_wellFormed
      (show fresh.root? = some (newRoot 1) from rfl) (Element.mem_preorder_self _) rfl list
  obtain ⟨hmarks, hfound⟩ := hmarked (Or.inr hgiven)
  obtain ⟨found, hfindAll, hnew⟩ := hfound "entry"
  have hvalues : tree.preorder.map (·.facet.attributes.get? "data-id") =
      list.preorder.map Node.mark? := by
    rw [← List.forall₂_eq_eq_eq, List.forall₂_map_left_iff, List.forall₂_map_right_iff]
    exact hmarks
  exact ⟨after, tree, found, hattach, hvalues.trans (by decide +kernel), hfindAll, hnew⟩

/-- Under another name than the reserved one, a node that gives a value of its own is found by that
value and not by its identifier. -/
theorem identifier_forged :
    let node : Node := ⟨⟨"div", by decide, by decide⟩, some "a", none,
      some ⟨.ofList [("data-id", "b")], by decide⟩, none, none⟩
    let after := (fresh.attach (newRoot 1) (Sketch.ofNode "data-id" node)).map Prod.fst
    (after.bind (·.findAll "data-id" "a")).map (·.map (·.id)) = .ok [] ∧
      (after.bind (·.findAll "data-id" "b")).map
        (·.map fun e => (e.id, e.facet.attributes.get? "data-id")) = .ok [(2, some ↑"b")] := by
  decide +kernel

end Document

end DesignBridge
