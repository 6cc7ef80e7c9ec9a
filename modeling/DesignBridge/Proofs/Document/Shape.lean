import DesignBridge.Proofs.Document.Revision

/-! # Well-formed documents

Numbers are given out once, only elements that can hold children have some, and every name stands
for something. Texts, known styles, new pages and new trees with new numbers keep a document so.
-/

namespace DesignBridge.Document

open Element (nothing under)

/-- A document in which numbers tell things apart and names stand for something. -/
structure WellFormed (d : Document) : Prop where
  distinct : (d.everything.map (·.id)).Nodup
  numbered : ∀ e ∈ d.everything, e.id < d.nextElement
  pagesDistinct : (d.pages.map (·.number)).Nodup
  pagesNumbered : ∀ page ∈ d.pages, page.number < d.nextPage
  capable : ∀ e ∈ d.everything, e.children ≠ [] → e.can .children = true
  current : ∃ page ∈ d.pages, page.number = d.current
  selected : ∀ id, d.selected = some id →
    ∃ root, d.root? = some root ∧ ∃ e ∈ root.preorder, e.id = id
  styled : ∀ e ∈ d.everything, ∀ name ∈ e.facet.styles, name ∈ d.styles.keys
  based : ∀ name style, d.styles.get? name = some style →
    ∀ parent, style.parent = some parent → parent ∈ d.styles.keys

/-- A document that has a new tree after the children of one element, and is the same otherwise. -/
structure Grown (d : Document) (parent tree : Element) (after : Document) : Prop where
  inside : parent ∈ d.elements
  can : parent.can .children = true
  distinct : (tree.preorder.map (·.id)).Nodup
  fresh : ∀ a ∈ tree.preorder, d.nextElement ≤ a.id ∧ a.id < after.nextElement
  later : d.nextElement ≤ after.nextElement
  capable : ∀ a ∈ tree.preorder, a.children ≠ [] → a.can .children = true
  plain : ∀ a ∈ tree.preorder, a.facet.styles = []
  eq : after = { d.revise (fun facet => facet) (under parent.id tree) with
    nextElement := after.nextElement }

theorem fresh_wellFormed : fresh.WellFormed where
  distinct := by decide
  numbered := by
    intro e he
    obtain rfl := List.mem_singleton.mp he
    decide
  pagesDistinct := by decide
  pagesNumbered := by
    intro page hpage
    obtain rfl := List.mem_singleton.mp hpage
    decide
  capable := by
    intro e he hne
    obtain rfl := List.mem_singleton.mp he
    exact absurd rfl hne
  current := ⟨_, List.mem_singleton_self _, rfl⟩
  selected := by
    intro id hid
    cases hid
  styled := by
    intro e he name hname
    obtain rfl := List.mem_singleton.mp he
    cases hname
  based := by
    intro name style hstyle
    cases hstyle

/-- A page without a root, whose old root is still kept. -/
def bare : Document :=
  (fresh.replaceRoot none).1

theorem bare_wellFormed : bare.WellFormed where
  distinct := by decide
  numbered := by
    intro e he
    obtain rfl := List.mem_singleton.mp he
    decide
  pagesDistinct := by decide
  pagesNumbered := by
    intro page hpage
    obtain rfl := List.mem_singleton.mp hpage
    decide
  capable := by
    intro e he hne
    obtain rfl := List.mem_singleton.mp he
    exact absurd rfl hne
  current := ⟨_, List.mem_singleton_self _, rfl⟩
  selected := by
    intro id hid
    cases hid
  styled := by
    intro e he name hname
    obtain rfl := List.mem_singleton.mp he
    cases hname
  based := by
    intro name style hstyle
    cases hstyle

section

variable {d : Document}

theorem WellFormed.distinct_root (h : d.WellFormed) {root : Element} (hroot : d.root? = some root) :
    (root.preorder.map (·.id)).Nodup :=
  ((Element.preorder_sublist (List.mem_append_left _ (root?_mem hroot))).map _).nodup h.distinct

/-- Numbers are distinct, so a number finds its element. -/
theorem WellFormed.anyElement?_eq (h : d.WellFormed) {e : Element} (he : e ∈ d.everything) :
    d.anyElement? e.id = some e := by
  cases hfound : d.anyElement? e.id with
  | none =>
      have hnot := List.find?_eq_none.mp hfound e he
      exact absurd (beq_self_eq_true e.id) hnot
  | some a =>
      have hfits := List.find?_some hfound
      have hsame : a = e := List.inj_on_of_nodup_map h.distinct
        (List.mem_of_find?_eq_some hfound) he (eq_of_beq hfits)
      rw [hsame]

/-- What is selected is there to be found, on the current page. -/
theorem WellFormed.selection?_eq (h : d.WellFormed) {id : Nat} (hid : d.selected = some id) :
    ∃ root e, d.root? = some root ∧ e ∈ root.preorder ∧ d.selection? = some e := by
  obtain ⟨root, hroot, e, he, rfl⟩ := h.selected id hid
  refine ⟨root, e, hroot, he, ?_⟩
  unfold selection?
  rw [hid]
  exact h.anyElement?_eq (mem_everything_of_mem_elements
    (mem_elements.mpr ⟨root, root?_mem hroot, he⟩))

theorem WellFormed.selection_mem (h : d.WellFormed) {e : Element} (he : d.selection? = some e) :
    e ∈ d.elements := by
  obtain ⟨id, hselected, _⟩ := Option.bind_eq_some_iff.mp he
  obtain ⟨root, a, hroot, ha, hfound⟩ := h.selection?_eq hselected
  obtain rfl := Option.some.inj (he.symm.trans hfound)
  exact mem_elements.mpr ⟨root, root?_mem hroot, ha⟩

/-- What is selected on the current page is still there after a revision that keeps numbers. -/
theorem selected_revise {edit : Facet → Facet} {new : Nat → List Element}
    (hid : ∀ facet, (edit facet).id = facet.id) {id : Nat}
    (h : ∃ root, d.root? = some root ∧ ∃ e ∈ root.preorder, e.id = id) :
    ∃ root, (d.revise edit new).root? = some root ∧ ∃ e ∈ root.preorder, e.id = id := by
  obtain ⟨root, hroot, e, he, heq⟩ := h
  refine ⟨root.revise edit new, by rw [root?_revise, hroot]; rfl, e.revise edit new, ?_, ?_⟩
  · exact Element.mem_preorder_revise.mpr (Or.inl ⟨e, he, rfl⟩)
  · exact (Element.id_revise hid e).trans heq

/-- Setting texts and known styles keeps a document well-formed, and so does a larger table of
styles. -/
theorem WellFormed.revised (h : d.WellFormed) {edit : Facet → Facet} (hedit : Facet.Revises edit)
    {styles : Table Style} (hkeys : ∀ name ∈ d.styles.keys, name ∈ styles.keys)
    (hstyled : ∀ facet, ∀ name ∈ (edit facet).styles, name ∈ facet.styles ∨ name ∈ styles.keys)
    (hbased : ∀ name style, styles.get? name = some style →
      ∀ parent, style.parent = some parent → parent ∈ styles.keys) :
    WellFormed ({ d with styles }.revise edit nothing) := by
  have hid : ∀ e : Element, (e.revise edit nothing).id = e.id := Element.id_revise hedit.id
  have hmem : ∀ a ∈ (revise edit nothing { d with styles }).everything,
      ∃ b ∈ d.everything, a = b.revise edit nothing := by
    intro a ha
    rw [everything_revise_nothing] at ha
    obtain ⟨b, hb, heq⟩ := List.mem_map.mp ha
    exact ⟨b, hb, heq.symm⟩
  constructor
  case distinct =>
    rw [ids_revise_nothing hedit.id]
    exact h.distinct
  case numbered =>
    intro a ha
    obtain ⟨b, hb, rfl⟩ := hmem a ha
    rw [hid]
    exact h.numbered b hb
  case pagesDistinct =>
    unfold revise
    rw [List.map_map]
    exact h.pagesDistinct
  case pagesNumbered =>
    intro page hpage
    obtain ⟨old, hold, rfl⟩ := List.mem_map.mp hpage
    exact h.pagesNumbered old hold
  case capable =>
    intro a ha hne
    obtain ⟨b, hb, rfl⟩ := hmem a ha
    rw [Element.revise_children_nothing] at hne
    rw [Element.can_revise hedit.kind]
    exact h.capable b hb fun hnil => hne (by rw [hnil]; rfl)
  case current =>
    obtain ⟨page, hpage, hcurrent⟩ := h.current
    exact ⟨_, List.mem_map_of_mem hpage, hcurrent⟩
  case selected =>
    intro id hselected
    have hbefore : ∃ root, root? { d with styles } = some root ∧ ∃ e ∈ root.preorder, e.id = id :=
      h.selected id hselected
    exact selected_revise hedit.id hbefore
  case styled =>
    intro a ha name hname
    obtain ⟨b, hb, rfl⟩ := hmem a ha
    rw [Element.revise_facet] at hname
    rcases hstyled b.facet name hname with hold | hnew
    · exact hkeys name (h.styled b hb name hold)
    · exact hnew
  case based => exact hbased

/-- The numbers in a new tree are not among those that were given out before. -/
theorem Grown.distinct_everything {parent tree : Element} {after : Document}
    (hgrown : d.Grown parent tree after) (h : d.WellFormed) :
    ((d.revise (fun facet => facet) (under parent.id tree)).everything.map (·.id)).Nodup := by
  unfold everything
  rw [trees_revise]
  refine (Element.ids_reviseAll (fun _ => rfl) _).nodup_iff.mpr (List.nodup_append.mpr
    ⟨h.distinct, Element.nodup_ids_under h.distinct hgrown.distinct, ?_⟩)
  intro n hold m hm hnm
  obtain ⟨a, ha, rfl⟩ := List.mem_map.mp hold
  obtain ⟨b, _, hb⟩ := List.mem_flatMap.mp hm
  obtain ⟨c, hc, rfl⟩ := List.mem_map.mp hb
  have hlow := (hgrown.fresh c (Element.mem_under.mp hc).2).1
  have hhigh := h.numbered a ha
  omega

/-- A new tree with new numbers keeps a document well-formed. -/
theorem WellFormed.grown (h : d.WellFormed) {parent tree : Element} {after : Document}
    (hgrown : d.Grown parent tree after) : after.WellFormed := by
  have hparent := mem_everything_of_mem_elements hgrown.inside
  have hid : ∀ e : Element,
      (e.revise (fun facet => facet) (under parent.id tree)).id = e.id :=
    Element.id_revise fun _ => rfl
  have hmem : ∀ a ∈ (d.revise (fun facet => facet) (under parent.id tree)).everything,
      (∃ b ∈ d.everything, a = b.revise (fun facet => facet) (under parent.id tree)) ∨
        a ∈ tree.preorder := by
    intro a ha
    rcases mem_everything_revise.mp ha with hold | ⟨b, _, hb⟩
    · exact Or.inl hold
    · exact Or.inr (Element.mem_under.mp hb).2
  rw [hgrown.eq]
  constructor
  case distinct => exact hgrown.distinct_everything h
  case numbered =>
    intro a ha
    rcases hmem a ha with ⟨b, hb, rfl⟩ | htree
    · rw [hid]
      exact Nat.lt_of_lt_of_le (h.numbered b hb) hgrown.later
    · exact (hgrown.fresh a htree).2
  case pagesDistinct =>
    show ((d.revise _ _).pages.map (·.number)).Nodup
    unfold revise
    rw [List.map_map]
    exact h.pagesDistinct
  case pagesNumbered =>
    intro page hpage
    obtain ⟨old, hold, rfl⟩ := List.mem_map.mp hpage
    exact h.pagesNumbered old hold
  case capable =>
    intro a ha hne
    rcases hmem a ha with ⟨b, hb, rfl⟩ | htree
    · rw [Element.can_revise fun _ => rfl]
      by_cases hb' : b.id = parent.id
      · rw [List.inj_on_of_nodup_map h.distinct hb hparent hb']
        exact hgrown.can
      · refine h.capable b hb fun hnil => hne ?_
        rw [Element.revise_children, hnil]
        exact if_neg hb'
    · exact hgrown.capable a htree hne
  case current =>
    obtain ⟨page, hpage, hcurrent⟩ := h.current
    exact ⟨_, List.mem_map_of_mem hpage, hcurrent⟩
  case selected =>
    intro id hselected
    exact selected_revise (fun _ => rfl) (h.selected id hselected)
  case styled =>
    intro a ha name hname
    rcases hmem a ha with ⟨b, hb, rfl⟩ | htree
    · rw [Element.revise_facet] at hname
      exact h.styled b hb name hname
    · rw [hgrown.plain a htree] at hname
      cases hname
  case based => exact h.based

/-- Filling what is new leaves it new. -/
theorem Grown.filled {parent tree : Element} {after : Document}
    (h : d.Grown parent tree after) (hd : d.WellFormed) {number : Nat}
    (hnumber : d.nextElement ≤ number) {f : Facet → Facet}
    (hf : ∀ facet, ∃ asset alt, f facet = { facet with asset, alt }) :
    d.Grown parent (tree.revise (Facet.only number f) nothing)
      (after.revise (Facet.only number f) nothing) := by
  have hedit : ∀ facet, ∃ asset alt, Facet.only number f facet = { facet with asset, alt } := by
    intro facet
    by_cases heq : facet.id = number
    · obtain ⟨asset, alt, hfacet⟩ := hf facet
      exact ⟨asset, alt, (if_pos heq).trans hfacet⟩
    · exact ⟨facet.asset, facet.alt, if_neg heq⟩
  have hid : ∀ facet, (Facet.only number f facet).id = facet.id := by
    intro facet
    obtain ⟨asset, alt, heq⟩ := hedit facet
    rw [heq]
  have hkind : ∀ facet, (Facet.only number f facet).kind = facet.kind := by
    intro facet
    obtain ⟨asset, alt, heq⟩ := hedit facet
    rw [heq]
  have hmem : ∀ a ∈ (tree.revise (Facet.only number f) nothing).preorder,
      ∃ b ∈ tree.preorder, a = b.revise (Facet.only number f) nothing := by
    intro a ha
    rw [Element.preorder_revise_nothing] at ha
    obtain ⟨b, hb, heq⟩ := List.mem_map.mp ha
    exact ⟨b, hb, heq.symm⟩
  constructor
  case inside => exact h.inside
  case can => exact h.can
  case distinct =>
    rw [Element.preorder_revise_nothing, List.map_map]
    simp only [Function.comp_def, Element.id_revise hid]
    exact h.distinct
  case fresh =>
    intro a ha
    obtain ⟨b, hb, rfl⟩ := hmem a ha
    rw [Element.id_revise hid]
    exact h.fresh b hb
  case later => exact h.later
  case capable =>
    intro a ha hne
    obtain ⟨b, hb, rfl⟩ := hmem a ha
    rw [Element.revise_children_nothing] at hne
    rw [Element.can_revise hkind]
    exact h.capable b hb fun hnil => hne (by rw [hnil]; rfl)
  case plain =>
    intro a ha
    obtain ⟨b, hb, rfl⟩ := hmem a ha
    obtain ⟨asset, alt, heq⟩ := hedit b.facet
    rw [Element.revise_facet, heq]
    exact h.plain b hb
  case eq =>
    have hrevise : (d.revise (fun facet => facet) (under parent.id tree)).revise
        (Facet.only number f) nothing = d.revise (fun facet => facet)
          (under parent.id (tree.revise (Facet.only number f) nothing)) := by
      rw [revise_revise]
      -- No element that was there before has the number of the new one.
      refine revise_congr (fun a ha => Facet.only_of_ne ?_) fun a _ => ?_
      · have hlt := hd.numbered a ha
        show a.id ≠ number
        omega
      · unfold under
        split <;> rfl
    rw [h.eq]
    exact congrArg (fun e : Document => { e with nextElement := after.nextElement }) hrevise

/-- A sketch that is put into an element of a page makes a new tree there. -/
theorem WellFormed.attached_grown (h : d.WellFormed) {parent : Element} {sketch : Sketch}
    (hparent : parent ∈ d.elements) (hcan : parent.can .children = true)
    (hsketch : sketch.Capable) :
    d.Grown parent (sketch.place d.nextElement).1 (d.attached parent sketch) := by
  obtain ⟨count, hnext, hids⟩ := sketch.ids_place d.nextElement
  have helements := Sketch.place_elements d.nextElement sketch hsketch
  have hafter : (d.attached parent sketch).nextElement = d.nextElement + count + 1 := hnext
  refine ⟨hparent, hcan, ?_, ?_, by omega, fun a ha => (helements a ha).1,
    fun a ha => (helements a ha).2, ?_⟩
  · rw [hids]
    exact List.nodup_range'
  · intro a ha
    have hmem : a.id ∈ List.range' d.nextElement (count + 1) := by
      rw [← hids]
      exact List.mem_map_of_mem ha
    rw [List.mem_range'_1] at hmem
    omega
  · exact attached_eq_revise parent sketch h.distinct

end

end DesignBridge.Document
