import DesignBridge.Proofs.Document.Effect
import DesignBridge.Proofs.Number.Form

/-! # Reachable documents

Batches of operations, attached sketches, added assets and selections on the current page lead from
a fresh document to well-formed documents only. In a well-formed document every element that is no
root is in one child list, once: that of its parent.
-/

namespace DesignBridge

theorem intText_natCast_injective {m n : Nat} (h : Number.intText m = Number.intText n) :
    m = n := by
  have hplain : ∀ k : Nat, (Number.intText k).toList = Nat.toDigits 10 k := by
    intro k
    rw [Number.toList_intText, decide_eq_false (by omega)]
    rfl
  have hdigits : Nat.toDigits 10 m = Nat.toDigits 10 n := by
    rw [← hplain, ← hplain, h]
  calc
    m = Nat.ofDigitChars 10 (Nat.toDigits 10 m) 0 := Nat.ofDigitChars_ten_toDigits.symm
    _ = Nat.ofDigitChars 10 (Nat.toDigits 10 n) 0 := by rw [hdigits]
    _ = n := Nat.ofDigitChars_ten_toDigits

theorem elementId_injective : Function.Injective elementId :=
  fun _ _ h => intText_natCast_injective (String.append_right_inj _ |>.mp h)

theorem pageId_injective : Function.Injective pageId :=
  fun _ _ h => intText_natCast_injective (String.append_right_inj _ |>.mp h)

namespace Document

/-! ## Parents -/

/-- Whether a row stands for an element in the child list of its parent, which is there once and in
no other child list. -/
structure ChildOf (d : Document) (row : Element.Placed) (parent : Element) : Prop where
  inside : parent ∈ d.elements
  named : row.parent = some parent.id
  child : ∃ child ∈ parent.children, child.facet = row.facet
  once : parent.childIds.count row.facet.id = 1
  alone : ∀ other ∈ d.elements, row.facet.id ∈ other.childIds → other = parent
  notRoot : ∀ root ∈ d.roots, root.id ≠ row.facet.id

theorem WellFormed.distinct_elements {d : Document} (h : d.WellFormed) :
    (d.elements.map (·.id)).Nodup := by
  have hsublist : d.elements.Sublist d.everything := by
    unfold elements everything trees
    rw [Element.preorderAll_eq, Element.preorderAll_eq, List.flatMap_append]
    exact List.sublist_append_left _ _
  exact (hsublist.map _).nodup h.distinct

/-- Every row stands for the root of a page, without a parent, or for a child of its parent. -/
theorem WellFormed.row_parent {d : Document} (h : d.WellFormed) {row : Element.Placed}
    (hrow : row ∈ d.rows) :
    (row.parent = none ∧ ∃ root ∈ d.roots, root.facet = row.facet) ∨
      ∃ parent, d.ChildOf row parent := by
  have hdistinct := h.distinct_elements
  -- The numbers of the roots and of all child lists, each listed once.
  have hids : (d.roots.map (·.id) ++ d.elements.flatMap Element.childIds).Nodup :=
    (Element.ids_preorderAll d.roots).nodup_iff.mp hdistinct
  obtain ⟨_, hchildren, hapart⟩ := List.nodup_append.mp hids
  obtain ⟨root, hroot, hplaced⟩ := List.mem_flatMap.mp hrow
  rcases Element.placed_cases hplaced with
    ⟨hfacet, hparent⟩ | ⟨a, ha, child, hchild, hparent, hfacet⟩
  · exact Or.inl ⟨hparent, root, hroot, hfacet.symm⟩
  · right
    have hmem : a ∈ d.elements := mem_elements.mpr ⟨root, hroot, ha⟩
    have hid : row.facet.id ∈ a.childIds := by
      rw [hfacet]
      exact List.mem_map_of_mem hchild
    refine ⟨a, hmem, hparent, ⟨child, hchild, hfacet.symm⟩, ?_, ?_, ?_⟩
    · exact List.count_eq_one_of_mem ((List.nodup_flatMap.mp hchildren).1 a hmem) hid
    · intro other hother hotherid
      exact Element.eq_of_mem_childIds hdistinct hother hmem hotherid hid
    · intro other hother
      exact hapart other.id (List.mem_map_of_mem hother) row.facet.id
        (List.mem_flatMap.mpr ⟨a, hmem, hid⟩)

/-- The rows stand for the elements, one for each, in document order. -/
theorem rows_facets (d : Document) : d.rows.map (·.facet) = d.elements.map (·.facet) := by
  unfold rows elements
  rw [Element.preorderAll_eq, List.map_flatMap, List.map_flatMap]
  exact List.flatMap_congr fun root _ => Element.placed_facets none 0 root

/-! ## What keeps a document well-formed -/

/-- Whether every page has a root. -/
def Rooted (d : Document) : Prop :=
  ∀ page ∈ d.pages, ∃ root, page.root = some root

section

variable {d : Document} {edit : Facet → Facet} {new : Nat → List Element}

theorem Rooted.revise (h : d.Rooted) : (d.revise edit new).Rooted := by
  intro page hpage
  obtain ⟨old, hold, rfl⟩ := List.mem_map.mp hpage
  obtain ⟨root, hroot⟩ := h old hold
  exact ⟨root.revise edit new, congrArg (Option.map _) hroot⟩

theorem Rooted.grown (h : d.Rooted) {parent tree : Element} {after : Document}
    (hgrown : d.Grown parent tree after) : after.Rooted := by
  rw [hgrown.eq]
  exact h.revise

theorem Rooted.paged (h : d.Rooted) (name : Runes) (slug : Option Runes) :
    (d.paged name slug).Rooted := by
  intro page hpage
  rcases List.mem_append.mp hpage with hold | hnew
  · exact h page hold
  · obtain rfl := List.mem_singleton.mp hnew
    exact ⟨_, rfl⟩

theorem WellFormed.paged (h : d.WellFormed) (name : Runes) (slug : Option Runes) :
    (d.paged name slug).WellFormed := by
  have hroots : (d.paged name slug).roots = d.roots ++ [newRoot d.nextElement] := by
    unfold roots Document.paged
    rw [List.filterMap_append]
    rfl
  -- The new root stands between the trees on the pages and the detached ones.
  have hperm : (d.paged name slug).everything.Perm (newRoot d.nextElement :: d.everything) := by
    unfold everything trees
    rw [hroots, Element.preorderAll_eq, Element.preorderAll_eq, List.append_assoc,
      List.flatMap_append, List.flatMap_append, List.flatMap_append]
    exact List.perm_middle
  have hmem : ∀ e ∈ (d.paged name slug).everything, e = newRoot d.nextElement ∨ e ∈ d.everything :=
    fun e he => List.mem_cons.mp (hperm.mem_iff.mp he)
  constructor
  case distinct =>
    refine (hperm.map _).nodup_iff.mpr (List.nodup_cons.mpr ⟨fun hold => ?_, h.distinct⟩)
    obtain ⟨e, he, hid⟩ := List.mem_map.mp hold
    exact Nat.ne_of_lt (h.numbered e he) hid
  case numbered =>
    intro e he
    show e.id < d.nextElement + 1
    rcases hmem e he with rfl | hold
    · exact Nat.lt_succ_self _
    · exact Nat.lt_succ_of_lt (h.numbered e hold)
  case pagesDistinct =>
    unfold Document.paged
    rw [List.map_append]
    refine List.nodup_append.mpr ⟨h.pagesDistinct, List.nodup_singleton _, ?_⟩
    intro n hn m hm
    obtain ⟨page, hpage, rfl⟩ := List.mem_map.mp hn
    rw [List.mem_singleton.mp hm]
    exact Nat.ne_of_lt (h.pagesNumbered page hpage)
  case pagesNumbered =>
    intro page hpage
    show page.number < d.nextPage + 1
    rcases List.mem_append.mp hpage with hold | hnew
    · exact Nat.lt_succ_of_lt (h.pagesNumbered page hold)
    · rw [List.mem_singleton.mp hnew]
      exact Nat.lt_succ_self _
  case capable =>
    intro e he hne
    rcases hmem e he with rfl | hold
    · exact absurd rfl hne
    · exact h.capable e hold hne
  case current => exact ⟨_, List.mem_append_right _ List.mem_cons_self, rfl⟩
  case selected =>
    intro id hid
    cases hid
  case styled =>
    intro e he style hstyle
    rcases hmem e he with rfl | hold
    · cases hstyle
    · exact h.styled e hold style hstyle
  case based => exact h.based

theorem WellFormed.addAsset (h : d.WellFormed) (id : Runes) (asset : Asset) :
    (d.addAsset id asset).WellFormed where
  distinct := h.distinct
  numbered := h.numbered
  pagesDistinct := h.pagesDistinct
  pagesNumbered := h.pagesNumbered
  capable := h.capable
  current := h.current
  selected := h.selected
  styled := h.styled
  based := h.based

theorem WellFormed.select (h : d.WellFormed) {id : Option Nat}
    (hid : ∀ n, id = some n → ∃ root, d.root? = some root ∧ ∃ e ∈ root.preorder, e.id = n) :
    (d.select id).WellFormed where
  distinct := h.distinct
  numbered := h.numbered
  pagesDistinct := h.pagesDistinct
  pagesNumbered := h.pagesNumbered
  capable := h.capable
  current := h.current
  selected := hid
  styled := h.styled
  based := h.based

end

end Document

/-! ## Operations and batches -/

namespace Interpreter

open Document

variable {i : Interpreter} {d after : Document}

theorem revises_text (id : Nat) (text : Runes) :
    Facet.Revises (Facet.only id ({ · with text := some text })) :=
  Facet.Revises.only (fun facet => ⟨some text, facet.styles, rfl⟩) id

theorem Effect.wellFormed {operation : Operation} {succeeded : Bool} (h : d.WellFormed)
    (heffect : Effect i d operation succeeded after) : after.WellFormed := by
  cases heffect with
  | idle => exact h
  | page => exact h.paged _ _
  | tree hgrown => exact h.grown hgrown
  | image hgrown => exact h.grown hgrown
  | @text target text found e hfound he =>
      refine h.revised (revises_text e.id text) (fun _ hname => hname)
        (fun facet name hname => Or.inl ?_) h.based
      unfold Facet.only at hname
      split at hname <;> exact hname
  | @style spec targets _ edit hedit =>
      have hkeys := (keys_prefix_defineStyle spec d).subset
      rw [defineStyle_eq]
      refine h.revised hedit.revises (fun name hname => hkeys hname) (fun facet name hname => ?_)
        (based_defineStyle spec d h.based)
      rcases hedit facet with heq | ⟨heq, _⟩
      · rw [heq] at hname
        exact Or.inl hname
      · rw [heq] at hname
        right
        rw [List.mem_singleton.mp hname, Table.mem_keys_iff, get?_defineStyle, if_pos rfl]
        rfl

theorem Effect.rooted {operation : Operation} {succeeded : Bool} (h : d.Rooted)
    (heffect : Effect i d operation succeeded after) : after.Rooted := by
  cases heffect with
  | idle => exact h
  | page => exact h.paged _ _
  | tree hgrown => exact h.grown hgrown
  | image hgrown => exact h.grown hgrown
  | text => exact h.revise
  | @style spec =>
      have hdefined : (defineStyle spec d).Rooted := by
        rw [defineStyle_eq]
        exact h
      exact hdefined.revise

/-- An instruction that stands for an operation has the effect of the operation; any other one has
none. -/
theorem step_effect (h : d.WellFormed) (instruction : Instruction) :
    (∃ operation, instruction.operation = .ok operation ∧
      Effect i d operation (i.step d instruction).2.success (i.step d instruction).1) ∨
      (∃ e, instruction.operation = .error e) ∧ (i.step d instruction).2.success = false ∧
        (i.step d instruction).1 = d := by
  unfold step
  cases hoperation : instruction.operation with
  | error e => exact Or.inr ⟨⟨e, rfl⟩, rfl, rfl⟩
  | ok operation =>
      have heffect := perform_effect (i := i) h operation
      refine Or.inl ⟨operation, rfl, ?_⟩
      dsimp only
      cases houtcome : (i.perform d operation).2 with
      | ok receipt =>
          rw [houtcome] at heffect
          exact heffect
      | error e =>
          rw [houtcome] at heffect
          exact heffect

theorem step_wellFormed (h : d.WellFormed ∧ d.Rooted) (instruction : Instruction) :
    (i.step d instruction).1.WellFormed ∧ (i.step d instruction).1.Rooted := by
  rcases step_effect h.1 instruction with ⟨operation, _, heffect⟩ | ⟨_, _, hsame⟩
  · exact ⟨heffect.wellFormed h.1, heffect.rooted h.2⟩
  · rw [hsame]
    exact h

theorem run_wellFormed (h : d.WellFormed ∧ d.Rooted) (batch : List Instruction) :
    (i.run d batch).1.WellFormed ∧ (i.run d batch).1.Rooted := by
  induction batch generalizing d with
  | nil => exact h
  | cons instruction rest ih =>
      rw [run_cons]
      exact ih (step_wellFormed h instruction)

end Interpreter

namespace Document

/-- The documents that a fresh one becomes. -/
inductive Reachable : Document → Prop
  | fresh : Reachable .fresh
  | executed {d : Document} (h : Reachable d) (i : Interpreter) (batch : List Instruction) :
      Reachable (i.run d batch).1
  | attached {d after : Document} {parent : Element} {sketch : Sketch} {number : Nat}
      (h : Reachable d) (hparent : parent ∈ d.elements) (hsketch : sketch.Made)
      (hafter : d.attach parent sketch = .ok (after, number)) : Reachable after
  | added {d : Document} (h : Reachable d) (id : Runes) (asset : Asset) :
      Reachable (d.addAsset id asset)
  | selected {d : Document} (h : Reachable d) {id : Option Nat}
      (hid : ∀ n, id = some n → ∃ root, d.root? = some root ∧ ∃ e ∈ root.preorder, e.id = n) :
      Reachable (d.select id)

theorem Reachable.wellFormed {d : Document} (h : d.Reachable) : d.WellFormed ∧ d.Rooted := by
  induction h with
  | fresh =>
      refine ⟨fresh_wellFormed, fun page hpage => ?_⟩
      obtain rfl := List.mem_singleton.mp hpage
      exact ⟨_, rfl⟩
  | executed _ i batch ih => exact Interpreter.run_wellFormed ih batch
  | @attached d after parent sketch number _ hparent hsketch hafter ih =>
      obtain ⟨hwell, hrooted⟩ := ih
      have hcan : parent.can .children = true := by
        by_contra hcannot
        unfold attach need at hafter
        rw [if_neg hcannot] at hafter
        cases hafter
      rw [attach_ok d sketch hcan] at hafter
      obtain ⟨rfl, _⟩ := Prod.mk.inj (Except.ok.inj hafter)
      have hgrown := hwell.attached_grown hparent hcan hsketch.capable
      exact ⟨hwell.grown hgrown, hrooted.grown hgrown⟩
  | added _ id asset ih => exact ⟨ih.1.addAsset id asset, ih.2⟩
  | selected _ hid ih => exact ⟨ih.1.select hid, ih.2⟩

/-- Every reachable document is well-formed: the numbers and the ids of elements and of pages are
distinct; the root of a page has no parent, and every other element is in one child list, once, that
of its parent; only elements that can hold children have some; the current page is one of the pages,
and what is selected is in its tree; and every style on an element, or under a style, is in the
table of styles. -/
theorem reachable_documents_wellFormed {d : Document} (h : d.Reachable) :
    d.WellFormed ∧ (d.elements.map fun e => elementId e.id).Nodup ∧
      (d.pages.map fun page => pageId page.number).Nodup ∧
      d.rows.map (·.facet) = d.elements.map (·.facet) ∧
      (∀ page ∈ d.pages, ∃ root, page.root = some root ∧ ⟨root.facet, none, 0⟩ ∈ d.rows) ∧
      (∀ row ∈ d.rows, (row.parent = none ∧ ∃ root ∈ d.roots, root.facet = row.facet) ∨
        ∃ parent, d.ChildOf row parent) ∧
      ∀ id, d.selected = some id →
        ∃ root e, d.root? = some root ∧ e ∈ root.preorder ∧ d.selection? = some e := by
  obtain ⟨hwell, hrooted⟩ := h.wellFormed
  refine ⟨hwell, ?_, ?_, d.rows_facets, ?_, fun row => hwell.row_parent, fun id =>
    hwell.selection?_eq⟩
  · have hids := hwell.distinct_elements.map elementId_injective
    rwa [List.map_map] at hids
  · have hnumbers := hwell.pagesDistinct.map pageId_injective
    rwa [List.map_map] at hnumbers
  · intro page hpage
    obtain ⟨root, hroot⟩ := hrooted page hpage
    refine ⟨root, hroot, List.mem_flatMap.mpr
      ⟨root, List.mem_filterMap.mpr ⟨page, hpage, hroot⟩, ?_⟩⟩
    obtain ⟨facet, children⟩ := root
    exact List.mem_cons_self

/-- A box was built in the root, with a text in it, and is selected. -/
theorem reachable_documents_wellFormed_selected :
    let i : Interpreter := ⟨"data-oid", .int 0⟩
    let box : Node := ⟨⟨"div", by decide, by decide⟩, some "box", none, none, none,
      some [⟨⟨"span", by decide, by decide⟩, none, some "Hello", none, none, none⟩]⟩
    let d := (i.run .fresh [.ready (.buildTree .root box)]).1.select (some 2)
    d.Reachable ∧ d.WellFormed ∧ d.rows.map (·.parent) = [none, some 1, some 2] := by
  intro i box d
  have hreachable : d.Reachable := by
    refine .selected (.executed .fresh i _) fun n hn => ?_
    obtain rfl := Option.some.inj hn
    exact ⟨_, rfl, _, List.mem_cons_of_mem _ List.mem_cons_self, rfl⟩
  exact ⟨hreachable, (reachable_documents_wellFormed hreachable).1, by decide +kernel⟩

end Document

end DesignBridge
