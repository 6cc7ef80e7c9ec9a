import DesignBridge.Proofs.Document.Reachable

/-! # What operations leave alone

The pages and elements that are there stay, in their places and in their order, and keep all but a
text or a style. What is new comes last: one page, or one tree at the end of one child list.
-/

namespace DesignBridge

namespace Document

open Element (nothing under)

/-- A document whose pages are those of another, with their trees revised, and perhaps more. -/
structure Revised (d after : Document) (edit : Facet → Facet) (new : Nat → List Element)
    (added : List Page) : Prop where
  revises : Facet.Revises edit
  pages : after.pages = d.pages.map (Page.revise edit new) ++ added
  detached : after.detached = d.detached.map (Element.revise edit new)

section

variable {d after : Document} {edit : Facet → Facet} {new : Nat → List Element} {added : List Page}

theorem Revised.roots (h : d.Revised after edit new added) :
    after.roots = d.roots.map (Element.revise edit new) ++ added.filterMap (·.root) := by
  rw [← roots_revise]
  unfold Document.roots
  rw [h.pages, List.filterMap_append]
  rfl

/-- Every element is still there, revised. -/
theorem Revised.elements (h : d.Revised after edit new added) {e : Element} (he : e ∈ d.elements) :
    e.revise edit new ∈ after.elements := by
  obtain ⟨root, hroot, hmem⟩ := mem_elements.mp he
  refine mem_elements.mpr ⟨root.revise edit new, ?_, ?_⟩
  · rw [h.roots]
    exact List.mem_append_left _ (List.mem_map_of_mem hroot)
  · exact Element.mem_preorder_revise.mpr (Or.inl ⟨e, hmem, rfl⟩)

/-- Every element keeps its parent. -/
theorem Revised.rows (h : d.Revised after edit new added) {row : Element.Placed}
    (hrow : row ∈ d.rows) : { row with facet := edit row.facet } ∈ after.rows := by
  obtain ⟨root, hroot, hplaced⟩ := List.mem_flatMap.mp hrow
  refine List.mem_flatMap.mpr ⟨root.revise edit new, ?_, ?_⟩
  · rw [h.roots]
    exact List.mem_append_left _ (List.mem_map_of_mem hroot)
  · exact Element.placed_revise h.revises.id hplaced

theorem revised_revise (hedit : Facet.Revises edit) : d.Revised (d.revise edit new) edit new [] :=
  ⟨hedit, (List.append_nil _).symm, rfl⟩

theorem revised_same : d.Revised d (fun facet => facet) nothing [] := by
  have hrevised : d.Revised (d.revise (fun facet => facet) nothing) _ nothing [] :=
    revised_revise Facet.revises_same
  rwa [revise_same] at hrevised

theorem revised_paged (name : Runes) (slug : Option Runes) :
    d.Revised (d.paged name slug) (fun facet => facet) nothing
      [⟨d.nextPage, name, slug, some (newRoot d.nextElement)⟩] where
  revises := Facet.revises_same
  pages := congrArg (· ++ _) (congrArg Document.pages d.revise_same).symm
  detached := (congrArg Document.detached d.revise_same).symm

theorem Grown.revised {parent tree : Element} (h : d.Grown parent tree after) :
    d.Revised after (fun facet => facet) (under parent.id tree) [] where
  revises := Facet.revises_same
  pages := by
    rw [h.eq, List.append_nil]
    rfl
  detached := by
    rw [h.eq]
    rfl

end

end Document

namespace Interpreter

open Document
open Element (nothing under)

/-- The new page or tree of an operation. -/
inductive Addition (d : Document) : Operation → (Nat → List Element) → List Page → Prop
  | none {operation : Operation} : Addition d operation nothing []
  | page {name : Label} {slug : Option Runes} :
      Addition d (.createPage name slug) nothing
        [⟨d.nextPage, name.text, Sketch.nonempty? slug, some (newRoot d.nextElement)⟩]
  | tree {operation : Operation} {parent tree : Element}
      (hkind : operation.kind = .buildTree ∨ operation.kind = .addImage)
      (hparent : parent ∈ d.elements) (hcan : parent.can .children = true)
      (hnew : ∀ a ∈ tree.preorder, d.nextElement ≤ a.id) :
      Addition d operation (under parent.id tree) []

/-- What an operation does to the texts that are there. -/
def TextsFramed (i : Interpreter) (d : Document) (edit : Facet → Facet) :
    Operation → Bool → Prop
  | .setText target text, true => ∃ found e,
      d.resolve i.key target.oid.text target.selector = .ok (some found) ∧
        (e = found ∨ found.children.find? (·.kind = .text) = some e) ∧
          (edit e.facet).text = some text ∧
            ∀ facet, facet.id ≠ e.id → (edit facet).text = facet.text
  | _, _ => ∀ facet, (edit facet).text = facet.text

/-- What an operation does to the styles that are there, on elements and in the table. -/
def StylesFramed (i : Interpreter) (d : Document) (edit : Facet → Facet) (after : Document) :
    Operation → Prop
  | .applyStyle spec targets =>
      (∀ facet, (edit facet).styles = facet.styles ∨
        (edit facet).styles = [spec.name.text] ∧ ∃ target ∈ targets, ∃ e,
          d.resolve i.key target.oid.text target.selector = .ok (some e) ∧ e.id = facet.id) ∧
        d.styles.keys <+: after.styles.keys ∧
          ∀ name, name ≠ spec.name.text → after.styles.get? name = d.styles.get? name ∨
            d.styles.get? name = none ∧ spec.parent = some name ∧
              after.styles.get? name = some .plain
  | _ => (∀ facet, (edit facet).styles = facet.styles) ∧ after.styles = d.styles

/-- What an operation leaves of a document: all that was there, with a text or styles edited, and
something new after it. -/
structure Framed (i : Interpreter) (d : Document) (operation : Operation) (succeeded : Bool)
    (after : Document) (edit : Facet → Facet) (new : Nat → List Element) (added : List Page) :
    Prop where
  revised : d.Revised after edit new added
  addition : Addition d operation new added
  texts : TextsFramed i d edit operation succeeded
  styles : StylesFramed i d edit after operation
  assets : after.assets = d.assets
  current : operation.kind ≠ .createPage → after.current = d.current ∧ after.selected = d.selected

section

variable {i : Interpreter} {d after : Document} {edit : Facet → Facet}

theorem textTarget?_cases {target e : Element} (h : textTarget? target = some e) :
    e = target ∨ target.children.find? (·.kind = .text) = some e := by
  have htext : ∀ child : Element, (child.kind = .text && child.can .text) =
      decide (child.kind = .text) := by
    intro child
    by_cases hkind : child.kind = .text
    · simp [hkind, Element.can, ElementKind.can]
    · simp [hkind]
  unfold textTarget? at h
  split at h
  next => exact Or.inl (Option.some.inj h).symm
  next =>
    split at h
    next =>
      simp only [htext] at h
      exact Or.inr h
    next => cases h

theorem textsFramed_same {operation : Operation} {succeeded : Bool}
    (h : operation.kind ≠ .setText ∨ succeeded = false)
    (hedit : ∀ facet, (edit facet).text = facet.text) :
    TextsFramed i d edit operation succeeded := by
  cases operation with
  | setText target text =>
      rcases h with hkind | rfl
      · exact absurd rfl hkind
      · exact hedit
  | _ => exact hedit

theorem stylesFramed_same {operation : Operation} (h : after.styles = d.styles)
    (hedit : ∀ facet, (edit facet).styles = facet.styles) :
    StylesFramed i d edit after operation := by
  cases operation with
  | applyStyle spec targets =>
      have hkeys : d.styles.keys <+: after.styles.keys := h ▸ List.prefix_rfl
      exact ⟨fun facet => Or.inl (hedit facet), hkeys, fun name _ => Or.inl (by rw [h])⟩
  | _ => exact ⟨hedit, h⟩

/-! ## One operation at a time -/

theorem framed_idle {operation : Operation} {succeeded : Bool}
    (h : operation = .testConnection ∨ succeeded = false) :
    Framed i d operation succeeded d (fun facet => facet) nothing [] where
  revised := revised_same
  addition := .none
  texts := textsFramed_same (h.imp_left fun heq => by rw [heq]; decide) fun _ => rfl
  styles := stylesFramed_same rfl fun _ => rfl
  assets := rfl
  current := fun _ => ⟨rfl, rfl⟩

theorem framed_page (name : Label) (slug : Option Runes) :
    Framed i d (.createPage name slug) true (d.paged name.text (Sketch.nonempty? slug))
      (fun facet => facet) nothing
      [⟨d.nextPage, name.text, Sketch.nonempty? slug, some (newRoot d.nextElement)⟩] where
  revised := revised_paged name.text (Sketch.nonempty? slug)
  addition := .page
  texts := fun _ => rfl
  styles := ⟨fun _ => rfl, rfl⟩
  assets := rfl
  current := fun hkind => absurd rfl hkind

theorem framed_grown {operation : Operation} {succeeded : Bool} {parent tree : Element}
    (hkind : operation.kind = .buildTree ∨ operation.kind = .addImage)
    (h : d.Grown parent tree after) :
    Framed i d operation succeeded after (fun facet => facet) (under parent.id tree) [] where
  revised := h.revised
  addition := .tree hkind h.inside h.can fun a ha => (h.fresh a ha).1
  texts := by
    refine textsFramed_same (Or.inl fun heq => ?_) fun _ => rfl
    rw [heq] at hkind
    exact absurd hkind (by decide)
  styles := stylesFramed_same (by rw [h.eq]; rfl) fun _ => rfl
  assets := by rw [h.eq]; rfl
  current := fun _ => by
    rw [h.eq]
    exact ⟨rfl, rfl⟩

theorem framed_text {target : Reference} {text : Runes} {found e : Element}
    (hfound : d.resolve i.key target.oid.text target.selector = .ok (some found))
    (he : textTarget? found = some e) :
    Framed i d (.setText target text) true
      (d.revise (Facet.only e.id ({ · with text := some text })) nothing)
      (Facet.only e.id ({ · with text := some text })) nothing [] where
  revised := revised_revise (revises_text e.id text)
  addition := .none
  texts := by
    refine ⟨found, e, hfound, textTarget?_cases he, ?_, fun facet hne => ?_⟩
    · exact congrArg Facet.text (if_pos rfl)
    · rw [Facet.only_of_ne hne]
  styles := by
    refine stylesFramed_same rfl fun facet => ?_
    unfold Facet.only
    split <;> rfl
  assets := rfl
  current := fun _ => ⟨rfl, rfl⟩

theorem framed_style {spec : StyleSpec} {targets : List Reference} {succeeded : Bool}
    (hedit : Dresses i.key spec.name.text targets d edit) :
    Framed i d (.applyStyle spec targets) succeeded ((defineStyle spec d).revise edit nothing)
      edit nothing [] where
  revised := by
    rw [defineStyle_eq]
    exact ⟨hedit.revises, (List.append_nil _).symm, rfl⟩
  addition := .none
  texts := by
    intro facet
    rcases hedit facet with heq | ⟨heq, _⟩
    · rw [heq]
    · rw [heq]
  styles := by
    refine ⟨fun facet => ?_, keys_prefix_defineStyle spec d, fun name hname => ?_⟩
    · rcases hedit facet with heq | ⟨heq, htarget⟩
      · exact Or.inl (by rw [heq])
      · exact Or.inr ⟨by rw [heq], htarget⟩
    · have hsame : ((defineStyle spec d).revise edit nothing).styles =
          (defineStyle spec d).styles :=
        rfl
      rw [hsame, get?_defineStyle, if_neg hname]
      split
      next hparent =>
        cases hbefore : d.styles.get? name with
        | none => exact Or.inr ⟨rfl, (Option.filter_eq_some_iff.mp hparent).1, rfl⟩
        | some style => exact Or.inl rfl
      next => exact Or.inl rfl
  assets := by
    rw [defineStyle_eq]
    rfl
  current := fun _ => by
    rw [defineStyle_eq]
    exact ⟨rfl, rfl⟩

theorem Effect.framed {operation : Operation} {succeeded : Bool}
    (heffect : Effect i d operation succeeded after) :
    ∃ edit new added, Framed i d operation succeeded after edit new added := by
  cases heffect with
  | idle h => exact ⟨_, _, _, framed_idle h⟩
  | page => exact ⟨_, _, _, framed_page _ _⟩
  | tree h => exact ⟨_, _, _, framed_grown (Or.inl rfl) h⟩
  | image h => exact ⟨_, _, _, framed_grown (Or.inr rfl) h⟩
  | text hfound he => exact ⟨_, _, _, framed_text hfound he⟩
  | style hedit => exact ⟨_, _, _, framed_style hedit⟩

end

/-- What every operation on a well-formed document leaves alone, whether it succeeds or fails. An
element that is there keeps its parent and its children, in their order, and at most its text or its
styles change: one text, by an operation on texts that succeeds, and the styles of what the
references of an operation on styles lead to. What is new is one page after the others or one tree
after the children of one element. -/
theorem operations_framed (i : Interpreter) {d : Document} (h : d.WellFormed)
    (instruction : Instruction) :
    ((∃ e, instruction.operation = .error e) ∧ (i.step d instruction).2.success = false ∧
        (i.step d instruction).1 = d) ∨
      ∃ operation, instruction.operation = .ok operation ∧ ∃ edit new added,
        Framed i d operation (i.step d instruction).2.success (i.step d instruction).1
            edit new added ∧
          (∀ row ∈ d.rows, { row with facet := edit row.facet } ∈ (i.step d instruction).1.rows) ∧
            ∀ e ∈ d.elements, e.revise edit new ∈ (i.step d instruction).1.elements ∧
              (e.revise edit new).children =
                e.children.map (Element.revise edit new) ++ new e.id := by
  rcases step_effect h instruction with ⟨operation, hoperation, heffect⟩ | hidle
  · obtain ⟨edit, new, added, hframed⟩ := heffect.framed
    exact Or.inr ⟨operation, hoperation, edit, new, added, hframed,
      fun row => hframed.revised.rows,
      fun e he => ⟨hframed.revised.elements he, Element.revise_children e⟩⟩
  · exact Or.inl hidle

/-- The text of a box is set, and nothing else. -/
theorem operations_framed_text :
    let i : Interpreter := ⟨"data-oid", .int 0⟩
    let box : Node := ⟨⟨"div", by decide, by decide⟩, some "box", some "Hello", none, none, none⟩
    let d := (i.run .fresh [.ready (.buildTree .root box)]).1
    let operation : Operation := .setText ⟨⟨"box", by decide, by decide⟩, none⟩ "Bye"
    d.WellFormed ∧ ∃ edit new added,
      Framed i d operation true (i.step d (.ready operation)).1 edit new added := by
  intro i box d operation
  have hwell : d.WellFormed := (run_wellFormed (Reachable.wellFormed .fresh) _).1
  have hsuccess : (i.step d (.ready operation)).2.success = true := by decide +kernel
  refine ⟨hwell, ?_⟩
  rcases operations_framed i hwell (.ready operation) with ⟨⟨e, he⟩, _⟩ | ⟨_, hsame, hframed⟩
  · cases he
  · obtain rfl := Except.ok.inj hsame
    obtain ⟨edit, new, added, hframed, _⟩ := hframed
    rw [hsuccess] at hframed
    exact ⟨edit, new, added, hframed⟩

end Interpreter

end DesignBridge
