import DesignBridge.Proofs.Document.Failure
import DesignBridge.Proofs.Document.Shape
import DesignBridge.Proofs.Document.Styling

/-! # What an operation does

What each operation leaves of a well-formed document: the document itself, or with one page more,
with one tree more, with one text set, or with a style defined and given to elements. A failing
operation leaves nothing else.
-/

namespace DesignBridge

namespace Document

open Element (nothing under)

/-- A document with a new page after the others, which is current. -/
def paged (d : Document) (name : Runes) (slug : Option Runes) : Document :=
  { d with
    pages := d.pages ++ [⟨d.nextPage, name, slug, some (newRoot d.nextElement)⟩]
    current := d.nextPage
    selected := none
    nextPage := d.nextPage + 1
    nextElement := d.nextElement + 1 }

end Document

namespace Interpreter

open Document
open Element (nothing under)

/-- Whether an edit gives a style, to nothing but what references lead to. -/
def Dresses (key name : Runes) (targets : List Reference) (d : Document)
    (edit : Facet → Facet) : Prop :=
  ∀ facet, edit facet = facet ∨ edit facet = { facet with styles := [name] } ∧
    ∃ target ∈ targets, ∃ e,
      d.resolve key target.oid.text target.selector = .ok (some e) ∧ e.id = facet.id

/-- What an operation may leave of a document, by whether it succeeds. -/
inductive Effect (i : Interpreter) (d : Document) : Operation → Bool → Document → Prop
  | idle {operation : Operation} {succeeded : Bool}
      (h : operation = .testConnection ∨ succeeded = false) : Effect i d operation succeeded d
  | page {name : Label} {slug : Option Runes} :
      Effect i d (.createPage name slug) true (d.paged name.text (Sketch.nonempty? slug))
  | tree {choice : ParentChoice} {node : Node} {parent tree : Element} {after : Document}
      (h : d.Grown parent tree after) : Effect i d (.buildTree choice node) true after
  | image {reference : Reference} {asset : Option AssetRef} {alt : Option Runes} {succeeded : Bool}
      {parent tree : Element} {after : Document} (h : d.Grown parent tree after) :
      Effect i d (.addImage reference asset alt) succeeded after
  | text {target : Reference} {text : Runes} {found e : Element}
      (hfound : d.resolve i.key target.oid.text target.selector = .ok (some found))
      (he : textTarget? found = some e) :
      Effect i d (.setText target text) true
        (d.revise (Facet.only e.id ({ · with text := some text })) nothing)
  | style {spec : StyleSpec} {targets : List Reference} {succeeded : Bool} {edit : Facet → Facet}
      (hedit : Dresses i.key spec.name.text targets d edit) :
      Effect i d (.applyStyle spec targets) succeeded ((defineStyle spec d).revise edit nothing)

section

variable {i : Interpreter} {d : Document}

theorem createPage_paged (h : d.WellFormed) (name : Runes) (slug : Option Runes) :
    createPage name slug d =
      (d.paged name (Sketch.nonempty? slug), .ok (.pageCreated d.nextPage name slug)) := by
  -- Only the new page has the new number.
  have hothers : ∀ (f : Page → Page), ∀ page ∈ d.pages,
      (if page.number = d.nextPage then f page else page) = page := by
    intro f page hpage
    have hlt := h.pagesNumbered page hpage
    exact if_neg (by omega)
  have hpages : ∀ f : Page → Page,
      (d.createPage.1.modifyPage d.nextPage f).pages =
        d.pages ++ [f ⟨d.nextPage, "Untitled", none, some (newRoot d.nextElement)⟩] := by
    intro f
    show List.map _ (d.pages ++ [_]) = _
    rw [List.map_append, List.map_congr_left (hothers f), List.map_id', List.map_singleton]
    exact congrArg _ (congrArg (fun page => [page]) (if_pos rfl))
  have hmodify : ∀ f : Page → Page, d.createPage.1.modifyPage d.nextPage f =
      { d with
        pages := d.pages ++ [f ⟨d.nextPage, "Untitled", none, some (newRoot d.nextElement)⟩]
        nextPage := d.nextPage + 1
        nextElement := d.nextElement + 1 } := by
    intro f
    rw [← hpages]
    rfl
  unfold createPage
  dsimp only
  have hnumber : d.createPage.2 = d.nextPage := rfl
  rw [hnumber, hmodify]
  unfold switchPage
  rw [if_pos (by simp)]
  dsimp only
  rw [Option.or_none]
  rfl

theorem parentFor_mem (h : d.WellFormed) {choice : ParentChoice} {parent : Element}
    (hparent : parentFor choice d = .ok parent) : parent ∈ d.elements := by
  unfold parentFor at hparent
  dsimp only at hparent
  split at hparent
  next e he =>
    obtain rfl := Except.ok.inj hparent
    split at he
    next => exact h.selection_mem (Option.filter_eq_some_iff.mp he).1
    next => cases he
  next =>
    split at hparent
    next root hroot =>
      obtain rfl := Except.ok.inj hparent
      have hmem := root?_mem (Option.filter_eq_some_iff.mp hroot).1
      exact mem_elements.mpr ⟨root, hmem, Element.mem_preorder_self root⟩
    next => cases hparent

theorem buildTree_effect (h : d.WellFormed) (choice : ParentChoice) (node : Node) :
    Effect i d (.buildTree choice node) (buildTree i.key choice node d).2.isOk
      (buildTree i.key choice node d).1 := by
  unfold buildTree
  cases hparent : parentFor choice d with
  | error e => exact .idle (Or.inr rfl)
  | ok parent =>
      dsimp only
      rw [attach_ok d _ (parentFor_can hparent)]
      exact .tree (h.attached_grown (parentFor_mem h hparent) (parentFor_can hparent)
        (Sketch.capable_ofNode i.key node))

theorem setText_effect (h : d.WellFormed) (target : Reference) (text : Runes) :
    Effect i d (.setText target text) (setText i.key target text d).2.isOk
      (setText i.key target text d).1 := by
  unfold setText
  cases hfound : d.resolve i.key target.oid.text target.selector with
  | error e => exact .idle (Or.inr rfl)
  | ok found =>
      cases found with
      | none => exact .idle (Or.inr rfl)
      | some found =>
          dsimp only
          cases he : textTarget? found with
          | none => exact .idle (Or.inr rfl)
          | some e =>
              dsimp only
              rw [setText_ok d text (textTarget?_can he), modifyFacet_eq_revise _ _ h.distinct]
              exact .text hfound he

theorem Dresses.revises {key name : Runes} {targets : List Reference} {edit : Facet → Facet}
    (h : Dresses key name targets d edit) : Facet.Revises edit := by
  intro facet
  rcases h facet with heq | ⟨heq, _⟩
  · exact ⟨facet.text, facet.styles, heq⟩
  · exact ⟨facet.text, [name], heq⟩

/-- Giving a style to one element more. -/
theorem Dresses.cons {key name : Runes} {target : Reference} {rest : List Reference} {e : Element}
    {edit : Facet → Facet}
    (he : d.resolve key target.oid.text target.selector = .ok (some e))
    (h : Dresses key name rest
      (d.revise (Facet.only e.id ({ · with styles := [name] })) nothing) edit) :
    Dresses key name (target :: rest) d
      fun facet => edit (Facet.only e.id ({ · with styles := [name] }) facet) := by
  have hrevises : Facet.Revises (Facet.only e.id ({ · with styles := [name] })) :=
    Facet.Revises.only (fun facet => ⟨facet.text, [name], rfl⟩) e.id
  intro facet
  have hfirst : Facet.only e.id ({ · with styles := [name] }) facet = facet ∨
      Facet.only e.id ({ · with styles := [name] }) facet = { facet with styles := [name] } ∧
        e.id = facet.id := by
    by_cases hid : facet.id = e.id
    · exact Or.inr ⟨if_pos hid, hid.symm⟩
    · exact Or.inl (if_neg hid)
  rcases h (Facet.only e.id ({ · with styles := [name] }) facet) with
    hkept | ⟨hstyled, later, hlater, a, ha, hid⟩
  · rcases hfirst with hsame | ⟨hsame, hid⟩
    · exact Or.inl (hkept.trans hsame)
    · exact Or.inr ⟨hkept.trans hsame, target, List.mem_cons_self, e, he, hid⟩
  · right
    have hfacet : edit (Facet.only e.id ({ · with styles := [name] }) facet) =
        { facet with styles := [name] } := by
      rcases hfirst with hsame | ⟨hsame, _⟩
      · rw [hstyled, hsame]
      · rw [hstyled, hsame]
    -- The references lead to the same elements as before.
    rw [resolve_revise hrevises] at ha
    cases hbefore : d.resolve key later.oid.text later.selector with
    | error error =>
        rw [hbefore] at ha
        cases ha
    | ok found =>
        rw [hbefore] at ha
        obtain ⟨b, rfl, rfl⟩ := Option.map_eq_some_iff.mp (Except.ok.inj ha)
        refine ⟨hfacet, later, List.mem_cons_of_mem _ hlater, b, hbefore, ?_⟩
        rw [Element.id_revise hrevises.id, hrevises.id] at hid
        exact hid

/-- Giving a style to what references lead to is an edit, of what they lead to in the document as it
was at first. -/
theorem styleTargets_dresses (key name : Runes) (targets : List Reference) (count : Nat)
    (skipped : List Runes) (h : (d.everything.map (·.id)).Nodup) :
    ∃ edit : Facet → Facet,
      (styleTargets key name targets count skipped d).1 = d.revise edit nothing ∧
        Dresses key name targets d edit := by
  have hidle : ∀ targets, Dresses key name targets d fun facet => facet :=
    fun _ _ => Or.inl rfl
  induction targets generalizing count skipped d with
  | nil => exact ⟨_, (revise_same d).symm, hidle []⟩
  | cons target rest ih =>
      unfold styleTargets
      cases hfound : d.resolve key target.oid.text target.selector with
      | error e => exact ⟨_, (revise_same d).symm, hidle (target :: rest)⟩
      | ok found =>
          dsimp only
          split
          next =>
            obtain ⟨edit, hafter, hedit⟩ := ih count (target.oid.text :: skipped) h hidle
            refine ⟨edit, hafter, fun facet => (hedit facet).imp_right ?_⟩
            rintro ⟨heq, later, hlater, hmore⟩
            exact ⟨heq, later, List.mem_cons_of_mem _ hlater, hmore⟩
          next e he =>
            obtain ⟨rfl, hcan⟩ := Option.filter_eq_some_iff.mp he
            have hrevises : Facet.Revises (Facet.only e.id ({ · with styles := [name] })) :=
              Facet.Revises.only (fun facet => ⟨facet.text, [name], rfl⟩) e.id
            rw [setStyles_ok d [name] hcan, modifyFacet_eq_revise _ _ h]
            dsimp only
            obtain ⟨edit, hafter, hedit⟩ := ih (count + 1) skipped
              (by rw [ids_revise_nothing hrevises.id]; exact h) (fun _ _ => Or.inl rfl)
            refine ⟨_, ?_, hedit.cons hfound⟩
            rw [hafter]
            exact revise_revise edit d

theorem applyStyle_effect (h : d.WellFormed) (spec : StyleSpec) (targets : List Reference) :
    Effect i d (.applyStyle spec targets) (applyStyle i.key spec targets d).2.isOk
      (applyStyle i.key spec targets d).1 := by
  have hdistinct : ((defineStyle spec d).everything.map (·.id)).Nodup := by
    rw [defineStyle_eq]
    exact h.distinct
  obtain ⟨edit, hafter, hedit⟩ :=
    styleTargets_dresses i.key spec.name.text targets 0 [] hdistinct
  unfold applyStyle
  rw [hafter]
  refine .style ?_
  rw [defineStyle_eq] at hedit
  exact hedit

/-! ## Images -/

/-- Filling an image edits its asset and the text that stands for it. -/
theorem fillImage_edits {image : Element} (hcan : image.can .image = true)
    (asset alt : Option Runes) (h : (d.everything.map (·.id)).Nodup) :
    ∃ f : Facet → Facet, (∀ facet, ∃ asset alt, f facet = { facet with asset, alt }) ∧
      (fillImage image asset alt d).1 = d.revise (Facet.only image.id f) nothing := by
  have hkept : ∃ f : Facet → Facet, (∀ facet, ∃ asset alt, f facet = { facet with asset, alt }) ∧
      d = d.revise (Facet.only image.id f) nothing := by
    refine ⟨fun facet => facet, fun facet => ⟨facet.asset, facet.alt, rfl⟩, ?_⟩
    rw [Facet.only_same, revise_same]
  unfold fillImage
  cases Sketch.nonempty? asset with
  | none =>
      dsimp only
      cases Sketch.nonempty? alt with
      | none => exact hkept
      | some text =>
          dsimp only
          rw [setAltText_ok d text hcan, modifyFacet_eq_revise _ _ h]
          exact ⟨_, fun facet => ⟨facet.asset, some text, rfl⟩, rfl⟩
  | some id =>
      dsimp only
      cases d.asset id with
      | error e => exact hkept
      | ok found =>
          rw [setAsset_ok d id hcan, modifyFacet_eq_revise _ _ h]
          dsimp only [Bind.bind, Except.bind]
          cases Sketch.nonempty? alt with
          | none => exact ⟨_, fun facet => ⟨some id, facet.alt, rfl⟩, rfl⟩
          | some text =>
              have hkeeps : ∀ facet, (Facet.only image.id ({ · with asset := some id }) facet).id =
                  facet.id := by
                intro facet
                unfold Facet.only
                split <;> rfl
              dsimp only
              rw [setAltText_ok _ text hcan,
                modifyFacet_eq_revise _ _ (by rw [ids_revise_nothing hkeeps]; exact h)]
              refine ⟨fun facet => { facet with asset := some id, alt := some text },
                fun facet => ⟨some id, some text, rfl⟩, (revise_revise _ d).trans ?_⟩
              exact congrArg (d.revise · nothing) (Facet.only_only fun _ => rfl)

theorem addImage_effect (h : d.WellFormed) (reference : Reference) (asset : Option AssetRef)
    (alt : Option Runes) :
    Effect i d (.addImage reference asset alt) (addImage i.key reference asset alt d).2.isOk
      (addImage i.key reference asset alt d).1 := by
  unfold addImage
  cases hfound : d.resolve i.key reference.oid.text reference.selector with
  | error e => exact .idle (Or.inr rfl)
  | ok found =>
      dsimp only
      split
      next => exact .idle (Or.inr rfl)
      next parent hparent =>
        obtain ⟨rfl, hcan⟩ := Option.filter_eq_some_iff.mp hparent
        have hgrown := h.attached_grown (resolve_mem_elements hfound) hcan
          (Sketch.capable_preset .image)
        rw [attach_ok d _ hcan]
        dsimp only
        have hcan : (Element.leaf (.plain ((preset .image).place d.nextElement).1.id .image
            none)).can .image = true := rfl
        obtain ⟨f, hf, hafter⟩ := fillImage_edits hcan (asset.bind (·.id)) alt
          (h.grown hgrown).distinct
        have hfilled := hgrown.filled h (Nat.le_refl d.nextElement) hf
        split
        next after hok =>
          rw [hok] at hafter
          rw [hafter]
          exact .image hfilled
        next after e hfailed =>
          rw [hfailed] at hafter
          rw [hafter]
          exact .image hfilled

/-- Every operation has its effect on a well-formed document. -/
theorem perform_effect (h : d.WellFormed) (operation : Operation) :
    Effect i d operation (i.perform d operation).2.isOk (i.perform d operation).1 := by
  cases operation with
  | testConnection => exact .idle (Or.inl rfl)
  | createPage name slug =>
      have hpage : i.perform d (.createPage name slug) = createPage name.text slug d := rfl
      rw [hpage, createPage_paged h]
      exact .page
  | buildTree parent tree => exact buildTree_effect h parent tree
  | setText target text => exact setText_effect h target text
  | applyStyle style targets => exact applyStyle_effect h style targets
  | addImage parent asset alt => exact addImage_effect h parent asset alt

end

end Interpreter

end DesignBridge
