import DesignBridge.Document.Basic
import DesignBridge.Proofs.Document.Tree

/-! # Sketches and what they become

A sketch that was made with the calls on sketches has children only where its kinds can hold them.
What it becomes in a document is numbered without a gap, parent first, and has no styles.
-/

namespace DesignBridge.Sketch

/-- Whether only kinds that can hold children do so in a sketch. -/
inductive Capable : Sketch → Prop
  | intro {kind : ElementKind} {tag : Option Runes} {attributes properties : Table Runes}
      {text : Option Runes} {children : List Sketch}
      (hcan : children ≠ [] → kind.can .children = true)
      (hchildren : ∀ child ∈ children, Capable child) :
      Capable ⟨kind, tag, attributes, properties, text, children⟩

/-- The sketches that can be made: a sketch starts out blank, whatever it shows may be set, and
finished sketches may be put into it. -/
inductive Made : Sketch → Prop
  | blank (kind : ElementKind) : Made (Sketch.blank kind)
  | dressed {s : Sketch} (h : Made s) (tag : Option Runes) (attributes properties : Table Runes)
      (text : Option Runes) : Made { s with tag, attributes, properties, text }
  | append {s child t : Sketch} (h : Made s) (hchild : Made child) (ht : s.append child = .ok t) :
      Made t

theorem Made.capable {s : Sketch} (h : Made s) : Capable s := by
  induction h with
  | blank kind => exact .intro (fun hne => absurd rfl hne) (by simp)
  | dressed _ tag attributes properties text ih =>
      obtain ⟨hcan, hchildren⟩ := ih
      exact .intro hcan hchildren
  | append _ _ ht ih ihchild =>
      unfold Sketch.append at ht
      split at ht
      next hcan =>
        obtain rfl := Except.ok.inj ht
        obtain ⟨_, hchildren⟩ := ih
        refine .intro (fun _ => hcan) fun c hc => ?_
        rcases List.mem_append.mp hc with hold | hnew
        · exact hchildren c hold
        · rw [List.mem_singleton.mp hnew]
          exact ihchild
      next => cases ht

/-- Every sketch in which only kinds that can hold children do so can be made, so it does not matter
when a sketch was changed that is part of another. -/
theorem Capable.made {s : Sketch} (h : Capable s) : Made s := by
  induction h with
  | @intro kind tag attributes properties text children hcan _ ih =>
      -- The children are put into the sketch one after the other.
      have hfront : ∀ front back, front ++ back = children →
          Made ⟨kind, tag, attributes, properties, text, front⟩ →
          Made ⟨kind, tag, attributes, properties, text, front ++ back⟩ := by
        intro front back
        induction back generalizing front with
        | nil =>
            intro _ hmade
            rwa [List.append_nil]
        | cons child rest ihback =>
            intro heq hmade
            have hmem : child ∈ children := heq ▸ List.mem_append_right _ List.mem_cons_self
            have hok : Sketch.append ⟨kind, tag, attributes, properties, text, front⟩ child =
                .ok ⟨kind, tag, attributes, properties, text, front ++ [child]⟩ :=
              if_pos (hcan (List.ne_nil_of_mem hmem))
            rw [List.append_cons] at heq ⊢
            exact ihback (front ++ [child]) heq (.append hmade (ih child hmem) hok)
      exact hfront [] children rfl ((Made.blank kind).dressed tag attributes properties text)

theorem capable_preset (kind : ElementKind) : Capable (Document.preset kind) :=
  .intro (fun hne => absurd rfl hne) (by simp [blank])

mutual

theorem capable_ofNode (key : Runes) : (node : Node) → Capable (ofNode key node)
  | ⟨_, _, _, _, _, children⟩ => .intro (fun _ => rfl) (capable_ofChildren key children)

theorem capable_ofChildren (key : Runes) :
    (children : Option (List Node)) → ∀ child ∈ ofChildren key children, Capable child
  | none => by simp [ofChildren]
  | some nodes => capable_ofNodes key nodes

theorem capable_ofNodes (key : Runes) :
    (nodes : List Node) → ∀ child ∈ ofNodes key nodes, Capable child
  | [] => by simp [ofNodes]
  | node :: rest => by
      intro child hchild
      rcases List.mem_cons.mp hchild with rfl | hrest
      · exact capable_ofNode key node
      · exact capable_ofNodes key rest child hrest

end

mutual

/-- The elements of a placed sketch are numbered from `next` on. -/
theorem ids_place (next : Nat) : (s : Sketch) →
    ∃ count, (place next s).2 = next + count + 1 ∧
      (place next s).1.preorder.map (·.id) = List.range' next (count + 1)
  | ⟨_, _, _, _, _, children⟩ => by
      obtain ⟨count, hnext, hids⟩ := ids_placeAll (next + 1) children
      refine ⟨count, by rw [place]; dsimp only; omega, ?_⟩
      rw [place, Element.preorder_eq, List.map_cons, hids, List.range'_succ]
      rfl

theorem ids_placeAll (next : Nat) : (sketches : List Sketch) →
    ∃ count, (placeAll next sketches).2 = next + count ∧
      (Element.preorderAll (placeAll next sketches).1).map (·.id) = List.range' next count
  | [] => ⟨0, rfl, rfl⟩
  | s :: rest => by
      obtain ⟨first, hfirst, hids⟩ := ids_place next s
      obtain ⟨others, hothers, hrest⟩ := ids_placeAll (place next s).2 rest
      refine ⟨first + 1 + others, by rw [placeAll]; dsimp only; omega, ?_⟩
      rw [placeAll, Element.preorderAll, List.map_append, hids, hrest, hfirst]
      exact List.range'_append_1

end

mutual

theorem place_elements (next : Nat) : (s : Sketch) → Capable s →
    ∀ e ∈ (place next s).1.preorder,
      (e.children ≠ [] → e.can .children = true) ∧ e.facet.styles = []
  | ⟨_, _, _, _, _, children⟩, ⟨hcan, hchildren⟩ => by
      intro e he
      rw [place, Element.preorder_eq] at he
      rcases List.mem_cons.mp he with rfl | he
      · refine ⟨fun hne => hcan fun hnil => hne ?_, rfl⟩
        rw [hnil, placeAll]
      · exact placeAll_elements (next + 1) children hchildren e he

theorem placeAll_elements (next : Nat) : (sketches : List Sketch) →
    (∀ s ∈ sketches, Capable s) → ∀ e ∈ Element.preorderAll (placeAll next sketches).1,
      (e.children ≠ [] → e.can .children = true) ∧ e.facet.styles = []
  | [], _ => by simp [placeAll, Element.preorderAll]
  | s :: rest, h => by
      intro e he
      rw [placeAll, Element.preorderAll, List.mem_append] at he
      rcases he with he | he
      · exact place_elements next s (h s List.mem_cons_self) e he
      · exact placeAll_elements _ rest (fun t ht => h t (List.mem_cons_of_mem _ ht)) e he

end

end DesignBridge.Sketch
