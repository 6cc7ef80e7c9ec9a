import DesignBridge.Proofs.Document.Path

/-! # Paths and document order

Paths of one length that begin at one element end in document order just as they are ordered place
by place. Paths that begin at two elements, neither inside the other, end in the order of these
elements. Where one of the two is inside the other that need not be so: its paths end in a deeper
layer, which can come earlier in document order.
-/

namespace DesignBridge

namespace Element

/-- Whether an element comes before another one in the document order of a tree. -/
def Precedes (root e other : Element) : Prop :=
  [e, other].Sublist root.preorder

section

variable {root m other e last : Element} {segments : List Runes} {places others : List Nat}

theorem pair_sublist_of_lt {α : Type} {row : List α} {a b : α} {m n : Nat} (ha : row[m]? = some a)
    (hb : row[n]? = some b) (h : m < n) : [a, b].Sublist row := by
  obtain ⟨hm, rfl⟩ := List.getElem?_eq_some_iff.mp ha
  obtain ⟨hn, rfl⟩ := List.getElem?_eq_some_iff.mp hb
  have hpairs : row.Pairwise fun a b => [a, b].Sublist row :=
    List.pairwise_iff_forall_sublist.mpr fun h => h
  exact List.pairwise_iff_getElem.mp hpairs m n hm hn h

theorem pair_sublist_append {α : Type} {front back : List α} {a b : α}
    (h : [a, b].Sublist (front ++ back)) :
    [a, b].Sublist front ∨ (a ∈ front ∧ b ∈ back) ∨ [a, b].Sublist back := by
  have hpairs : (front ++ back).Pairwise fun a b =>
      [a, b].Sublist front ∨ (a ∈ front ∧ b ∈ back) ∨ [a, b].Sublist back := by
    refine List.pairwise_append.mpr ⟨?_, ?_, fun a ha b hb => Or.inr (Or.inl ⟨ha, hb⟩)⟩
    · exact List.pairwise_iff_forall_sublist.mpr fun hfront => Or.inl hfront
    · exact List.pairwise_iff_forall_sublist.mpr fun hback => Or.inr (Or.inr hback)
  exact List.pairwise_iff_forall_sublist.mp hpairs h

/-- What is in an earlier tree comes before what is in a later one. -/
theorem pair_sublist_preorderAll {trees : List Element} (h : [m, other].Sublist trees)
    (he : e ∈ m.preorder) (hlast : last ∈ other.preorder) :
    [e, last].Sublist (preorderAll trees) := by
  have hpair : [e, last].Sublist (preorderAll [m, other]) := by
    rw [preorderAll, preorderAll, preorderAll, List.append_nil]
    exact (List.singleton_sublist.mpr he).append (List.singleton_sublist.mpr hlast)
  rw [preorderAll_eq] at hpair ⊢
  exact hpair.trans (h.flatMap preorder)

theorem Precedes.trans_sublist (h : Precedes m e last) (hm : m ∈ root.preorder) :
    Precedes root e last :=
  List.Sublist.trans h (preorder_sublist_of_mem hm)

/-- Two elements of some trees, one after the other, are in one tree or in two, one after the
other. -/
theorem pair_sublist_cases {trees : List Element} (h : [m, other].Sublist (preorderAll trees)) :
    (∃ tree ∈ trees, Precedes tree m other) ∨
      ∃ first second, [first, second].Sublist trees ∧ m ∈ first.preorder ∧
        other ∈ second.preorder := by
  induction trees with
  | nil => cases h
  | cons tree rest ih =>
      rcases pair_sublist_append h with hfront | ⟨hm, hother⟩ | hback
      · exact Or.inl ⟨tree, List.mem_cons_self, hfront⟩
      · obtain ⟨second, hsecond, hother⟩ := mem_preorderAll.mp hother
        exact Or.inr ⟨tree, second, (List.singleton_sublist.mpr hsecond).cons_cons _, hm, hother⟩
      · rcases ih hback with ⟨inside, hinside, hprecedes⟩ | ⟨first, second, hpair, hrest⟩
        · exact Or.inl ⟨inside, List.mem_cons_of_mem _ hinside, hprecedes⟩
        · exact Or.inr ⟨first, second, hpair.cons _, hrest⟩

/-- What is inside an element comes before what is inside a later element that is not inside it. -/
theorem Precedes.inside (h : Precedes root m other) (hnot : other ∉ m.preorder)
    (he : e ∈ m.preorder) (hlast : last ∈ other.preorder) : Precedes root e last := by
  induction root with
  | mk facet children ih =>
      unfold Precedes at h ⊢
      rw [preorder_eq] at h ⊢
      rcases List.sublist_cons_iff.mp h with h | ⟨_, heq, h⟩
      · refine List.Sublist.cons _ ?_
        rcases pair_sublist_cases h with
          ⟨tree, htree, hprecedes⟩ | ⟨first, second, hpair, hm, hother⟩
        · exact (ih tree htree hprecedes).trans (preorder_sublist htree)
        · exact pair_sublist_preorderAll hpair ((preorder_sublist_of_mem hm).subset he)
            ((preorder_sublist_of_mem hother).subset hlast)
      · -- The first of the two is the root, so the other one is inside it.
        obtain ⟨rfl, rfl⟩ := List.cons.inj heq
        refine absurd ?_ hnot
        rw [preorder_eq]
        exact List.mem_cons_of_mem _ (List.singleton_sublist.mp h)

theorem Descends.mem (h : Descends e segments places last) : last ∈ e.preorder := by
  induction h with
  | here e => exact mem_preorder_self e
  | child hchild _ _ ih =>
      exact (preorder_sublist_of_mem (mem_preorder_of_mem_children (mem_preorder_self _)
        (List.mem_of_getElem? hchild))).subset ih

/-- Paths of one length from one element end in the order of their places. -/
theorem Descends.precedes (h : Descends m segments places e)
    (hother : Descends m segments others last)
    (hle : others = places ∨ Before places others) : last = e ∨ Precedes m e last := by
  induction h generalizing others last with
  | here e =>
      cases hother
      exact Or.inl rfl
  | child hchild _ hrest ih =>
      cases hother with
      | child hchild' _ hrest' =>
          rcases eq_or_before_cons_iff.mp hle with hlt | ⟨rfl, hrest_le⟩
          · right
            unfold Precedes
            rw [preorder_eq]
            exact (pair_sublist_preorderAll (pair_sublist_of_lt hchild hchild' hlt) hrest.mem
              hrest'.mem).cons _
          · obtain rfl := Option.some.inj (hchild.symm.trans hchild')
            refine (ih hrest' hrest_le).imp_right fun hprecedes => hprecedes.trans_sublist ?_
            exact mem_preorder_of_mem_children (mem_preorder_self _) (List.mem_of_getElem? hchild)

end

end Element

namespace Document

open Element (Descends Precedes Reaches preorderAll)

/-- What a selector leads to, in document order. There is an element that carries the identifier
from which the selector leads there, and it comes before all others that carry the identifier and
from which the selector leads on. What is found comes before all else that the selector leads to
from an element which carries the identifier, unless that element is inside the first one. -/
theorem resolved_first_unless_nested {d : Document} (h : d.WellFormed) {key oid path : Runes}
    (hblank : isBlankSelector (some path) = false) {e : Element}
    (hfound : d.resolve key oid (some path) = .ok (some e)) :
    ∃ root tagged m places, d.root? = some root ∧ d.findAll key oid = .ok tagged ∧ m ∈ tagged ∧
      Descends m (Selector.segments path) places e ∧
      ∀ other ∈ tagged, ∀ others last, Descends other (Selector.segments path) others last →
        (other = m ∨ Precedes root m other) ∧
          (other ∉ preorderAll m.children → last = e ∨ Precedes root e last) := by
  obtain ⟨root, hroot, -⟩ := resolve_mem hfound
  obtain ⟨_, hreaches, hleast⟩ := (h.resolve_eq_some_iff hroot hblank).mp hfound
  cases hreaches with
  | @intro m _ place places hm hdescends =>
      have hdistinct : (root.preorder.map (·.id)).Nodup := h.distinct_root hroot
      have htagged : (root.preorder.filter (carries key oid)).Nodup :=
        (hdistinct.of_map _).filter _
      have hmem := List.mem_of_getElem? hm
      refine ⟨root, _, m, places, hroot, findAll_eq hroot key oid, hmem, hdescends, ?_⟩
      intro other hother others last hlast
      obtain ⟨n, hn⟩ := List.mem_iff_getElem?.mp hother
      rcases Element.eq_or_before_cons_iff.mp (hleast _ _ (.intro hn hlast)) with hlt | ⟨rfl, hle⟩
      · have hpair := Element.pair_sublist_of_lt hm hn hlt
        have hprecedes : Precedes root m other := hpair.trans List.filter_sublist
        refine ⟨Or.inr hprecedes, fun hnot => Or.inr (hprecedes.inside ?_ hdescends.mem hlast.mem)⟩
        rw [Element.preorder_eq, List.mem_cons, not_or]
        refine ⟨fun heq => ?_, hnot⟩
        exact (List.nodup_cons.mp (hpair.nodup htagged)).1 (heq ▸ List.mem_singleton_self other)
      · obtain rfl := Option.some.inj (hn.symm.trans hm)
        refine ⟨Or.inl rfl, fun _ => ?_⟩
        exact (hdescends.precedes hlast hle).imp_right fun hprecedes =>
          hprecedes.trans_sublist (List.mem_filter.mp hmem).1

/-- A document in which a box and a span inside it carry one identifier, and both hold a box. -/
def nested : Document :=
  let part (tag : String) (htag : tag ≠ "") (oid : Option Runes) (inside : List Node) : Node :=
    ⟨⟨tag, by simpa using htag, Runes.isWhole_ofString tag⟩, oid, none, none, none, some inside⟩
  let i : Interpreter := ⟨"data-oid", .int 0⟩
  (i.run .fresh [.ready (.buildTree .root (part "div" (by decide) (some "x")
    [part "span" (by decide) (some "x") [part "div" (by decide) none []],
      part "div" (by decide) none []]))]).1

theorem nested_wellFormed : nested.WellFormed :=
  (Reachable.executed .fresh _ _).wellFormed.1

/-- The box behind the span is found, to which the selector leads from the outer box. -/
theorem resolved_first_unless_nested_behind :
    ∃ (e root m : Element) (tagged : List Element) (places : List Nat),
      nested.resolve "data-oid" "x" (some "div") = .ok (some e) ∧ e.id = 5 ∧
        nested.root? = some root ∧ nested.findAll "data-oid" "x" = .ok tagged ∧ m ∈ tagged ∧
          Descends m (Selector.segments "div") places e := by
  have hfound : (nested.resolve "data-oid" "x" (some "div")).toOption.join.any (·.id == 5) =
      true := by decide +kernel
  obtain ⟨e, hresolve, hid⟩ := exists_of_any_resolve hfound
  obtain ⟨root, tagged, m, places, hroot, htagged, hm, hdescends, -⟩ :=
    resolved_first_unless_nested nested_wellFormed (by decide +kernel) hresolve
  exact ⟨e, root, m, tagged, places, hresolve, beq_iff_eq.mp hid, hroot, htagged, hm, hdescends⟩

/-- The box inside the span comes before it, although the selector leads there as well. -/
theorem nested_identifier_found_late :
    ¬ ∀ (d : Document) (key oid path : Runes) (root e last : Element) (tagged : List Element)
      (places : List Nat), d.WellFormed → isBlankSelector (some path) = false →
        d.resolve key oid (some path) = .ok (some e) → d.root? = some root →
          d.findAll key oid = .ok tagged → Reaches tagged (Selector.segments path) places last →
            last = e ∨ Precedes root e last := by
  intro hall
  have hfound : (nested.resolve "data-oid" "x" (some "div")).toOption.join.any (·.id == 5) =
      true := by decide +kernel
  have hreached : nested.root?.any (fun root =>
      root.preorder.map (·.id) == [1, 2, 3, 4, 5] &&
        (Element.spread (Element.paths (Selector.segments "div"))
          (root.preorder.filter (carries "data-oid" "x"))).any (·.2.id == 4)) = true := by
    decide +kernel
  obtain ⟨e, hresolve, hid⟩ := exists_of_any_resolve hfound
  obtain ⟨root, hroot, hreached⟩ := (Option.any_eq_true _ _).mp hreached
  rw [Bool.and_eq_true, beq_iff_eq, List.any_eq_true] at hreached
  obtain ⟨hids, ⟨places, last⟩, hmem, hlast⟩ := hreached
  have hid : e.id = 5 := beq_iff_eq.mp hid
  have hlast : last.id = 4 := beq_iff_eq.mp hlast
  rcases hall nested "data-oid" "x" "div" root e last _ places nested_wellFormed
    (by decide +kernel) hresolve hroot (findAll_eq hroot _ _)
    (Element.mem_spread_paths.mp hmem) with rfl | hprecedes
  · rw [hid] at hlast
    cases hlast
  · have hsublist : [e.id, last.id].Sublist (root.preorder.map (·.id)) :=
      List.Sublist.map Element.id hprecedes
    rw [hid, hlast, hids] at hsublist
    exact absurd hsublist (by decide)

end Document

end DesignBridge
