import DesignBridge.Proofs.Document.Dressing

/-! # Operations that commute

What an operation on texts does is an edit of one element, and which element that is can be told
from the document as it was at first: neither a style nor the text of an element that another
reference leads to makes a difference. References that lead to different elements never write the
same one, since a text child has one parent and is no target itself. So the order of such operations
does not matter.
-/

namespace DesignBridge

namespace Facet

/-- Edits of facets with different numbers commute. -/
theorem only_comm {id other : Nat} {f g : Facet → Facet} (hf : ∀ facet, (f facet).id = facet.id)
    (hg : ∀ facet, (g facet).id = facet.id) (h : id ≠ other) (facet : Facet) :
    only id f (only other g facet) = only other g (only id f facet) := by
  by_cases hother : facet.id = other
  · have hfacet : facet.id ≠ id := fun heq => h (heq.symm.trans hother)
    have hedited : (only other g facet).id ≠ id := by rwa [id_only hg]
    rw [only_of_ne hedited, only_of_ne hfacet]
  · have hedited : (only id f facet).id ≠ other := by rwa [id_only hf]
    rw [only_of_ne hother, only_of_ne hedited]

end Facet

namespace Document

open Element (nothing)

/-- Whether what one reference leads to is nothing that another one leads to. -/
def Apart (key : Runes) (d : Document) (a b : Reference) : Prop :=
  ∀ e, d.led? key a = some e → d.led? key b ≠ some e

variable {d : Document} {key : Runes} {a b : Reference} {edit : Facet → Facet}

theorem Apart.symm (h : Apart key d a b) : Apart key d b a :=
  fun e hb ha => h e ha hb

/-- Numbers tell whether references lead to different elements. -/
theorem apart_of_ids (h : (d.led? key a).map (·.id) ≠ (d.led? key b).map (·.id)) :
    Apart key d a b := by
  intro e ha hb
  exact h (by rw [ha, hb])

/-- References still lead to different elements after texts and styles were set. -/
theorem Apart.revise (h : Apart key d a b) (hdistinct : (d.everything.map (·.id)).Nodup)
    (hedit : Facet.Revises edit) : Apart key (d.revise edit nothing) a b := by
  intro e ha hb
  rw [led?_revise hedit] at ha hb
  obtain ⟨first, hfirst, rfl⟩ := Option.map_eq_some_iff.mp ha
  obtain ⟨second, hsecond, heq⟩ := Option.map_eq_some_iff.mp hb
  have hid : second.id = first.id := by
    rw [← Element.id_revise hedit.id second, heq, Element.id_revise hedit.id]
  have hsame := List.inj_on_of_nodup_map hdistinct (led?_mem hsecond) (led?_mem hfirst) hid
  exact h first hfirst (hsame ▸ hsecond)

end Document

namespace Interpreter

open Document
open Element (nothing)

section

variable {d : Document} {key : Runes} {target a b : Reference} {text : Runes}
  {edit : Facet → Facet}

/-! ## Which text is set -/

/-- What is written for a reference is the element that it leads to, or a text child of it. -/
theorem written_cases {e : Element} (h : written key target d = .ok e) :
    ∃ found, d.led? key target = some found ∧
      (e = found ∨ e ∈ found.children ∧ e.kind = .text) := by
  obtain ⟨found, hfound, he⟩ := written_eq_ok h
  refine ⟨found, led?_of_resolve hfound, ?_⟩
  rcases textTarget?_cases he with heq | hchild
  · exact Or.inl heq
  · exact Or.inr ⟨Element.mem_of_textChild? hchild, Element.kind_of_textChild? hchild⟩

/-- What is written for one reference is not what another one leads to. -/
theorem written_ne_led (h : (d.everything.map (·.id)).Nodup) (hapart : Apart key d a b)
    {e found : Element} (he : written key a d = .ok e) (hfound : d.led? key b = some found) :
    e.id ≠ found.id := by
  intro hid
  obtain ⟨own, hown, hwritten⟩ := written_cases he
  rcases hwritten with rfl | ⟨hchild, hkind⟩
  · have hsame := List.inj_on_of_nodup_map h (led?_mem hown) (led?_mem hfound) hid
    exact hapart e hown (hsame ▸ hfound)
  · have hsame := List.inj_on_of_nodup_map h (led?_child_mem hown hchild) (led?_mem hfound) hid
    exact led?_kind hfound (hsame ▸ hkind)

/-- Nor is it what is written for the other one. -/
theorem written_ne_written (h : (d.everything.map (·.id)).Nodup) (hapart : Apart key d a b)
    {e e' : Element} (he : written key a d = .ok e) (he' : written key b d = .ok e') :
    e.id ≠ e'.id := by
  obtain ⟨other, hother, hwritten'⟩ := written_cases he'
  rcases hwritten' with rfl | ⟨hchild', _⟩
  · exact written_ne_led h hapart he hother
  · intro hid
    obtain ⟨own, hown, hwritten⟩ := written_cases he
    rcases hwritten with rfl | ⟨hchild, _⟩
    · exact written_ne_led h hapart.symm he' hown hid.symm
    · -- The two would be one child of both parents.
      have hsame : own = other := Element.eq_of_mem_childIds h (led?_mem hown) (led?_mem hother)
        (List.mem_map_of_mem hchild) (hid ▸ List.mem_map_of_mem hchild')
      exact hapart own hown (hsame ▸ hother)

/-- The edit of an operation on texts, told from what it writes. -/
def wording (text : Runes) : Except Failure Element → Facet → Facet
  | .ok e => Facet.only e.id ({ · with text := some text })
  | .error _ => fun facet => facet

theorem wording_ok (text : Runes) (e : Element) :
    wording text (.ok e) = Facet.only e.id ({ · with text := some text }) :=
  rfl

theorem revises_wording (text : Runes) (outcome : Except Failure Element) :
    Facet.Revises (wording text outcome) := by
  cases outcome with
  | ok e => exact revises_text e.id text
  | error e => exact Facet.revises_same

theorem wording_revise (hedit : Facet.Revises edit) (outcome : Except Failure Element) :
    wording text (outcome.map (Element.revise edit nothing)) = wording text outcome := by
  cases outcome with
  | ok e =>
      dsimp only [Except.map]
      rw [wording_ok, wording_ok, Element.id_revise hedit.id]
  | error e => rfl

/-- Which text an operation sets does not depend on the texts set for references that lead
elsewhere. -/
theorem written_wording (h : (d.everything.map (·.id)).Nodup) (hapart : Apart key d a b)
    (text : Runes) :
    written key b (d.revise (wording text (written key a d)) nothing) =
      (written key b d).map (Element.revise (wording text (written key a d)) nothing) := by
  refine written_revise (revises_wording text _) fun found hfound => ?_
  cases hwritten : written key a d with
  | error e => rfl
  | ok e =>
      have hne := written_ne_led h hapart hwritten (led?_of_resolve hfound)
      rw [wording_ok, Facet.only_of_ne hne.symm]

/-- Nor does it depend on the styles of elements. -/
theorem written_dress (key : Runes) (target : Reference) (ids : List Nat) (name : Runes) :
    written key target (d.revise (Facet.dress ids name) nothing) =
      (written key target d).map (Element.revise (Facet.dress ids name) nothing) := by
  refine written_revise Facet.revises_dress fun found _ => ?_
  unfold Facet.dress
  split <;> rfl

theorem written_defineStyle (key : Runes) (target : Reference) (spec : StyleSpec) (d : Document) :
    written key target (defineStyle spec d) = written key target d := by
  unfold written
  rw [resolve_defineStyle]

theorem wording_wording (h : (d.everything.map (·.id)).Nodup) (hapart : Apart key d a b)
    (first second : Runes) (facet : Facet) :
    wording first (written key a d) (wording second (written key b d) facet) =
      wording second (written key b d) (wording first (written key a d) facet) := by
  cases ha : written key a d with
  | error e => rfl
  | ok e =>
      cases hb : written key b d with
      | error e => rfl
      | ok e' =>
          have hne := written_ne_written h hapart ha hb
          rw [wording_ok, wording_ok]
          refine Facet.only_comm ?_ ?_ hne facet
          · exact fun _ => rfl
          · exact fun _ => rfl

theorem wording_dress (outcome : Except Failure Element) (ids : List Nat) (name : Runes)
    (facet : Facet) :
    wording text outcome (Facet.dress ids name facet) =
      Facet.dress ids name (wording text outcome facet) := by
  cases outcome with
  | error e => rfl
  | ok e =>
      rw [wording_ok]
      unfold Facet.only Facet.dress
      dsimp only
      split <;> split <;> rfl

end

/-! ## Steps as edits -/

section

variable {i : Interpreter} {d : Document} {x y : Instruction} {target a b : Reference}
  {text first second : Runes} {spec : StyleSpec} {targets : List Reference}

/-- An operation on texts edits the element that it writes. -/
theorem step_setText (hx : x.operation = .ok (.setText target text))
    (h : (d.everything.map (·.id)).Nodup) :
    i.step d x = (d.revise (wording text (written i.key target d)) nothing,
      resultOf x.name ((written i.key target d).map fun _ => .textSet target.oid.text text)) := by
  have hperform : i.perform d (.setText target text) = setText i.key target text d := rfl
  rw [step_eq i d hx, hperform, setText_eq]
  cases written i.key target d with
  | ok e =>
      dsimp only
      rw [worded_eq_revise h]
      rfl
  | error e => exact congrArg₂ Prod.mk (revise_same d).symm rfl

/-- An operation on styles defines its style and dresses what its references lead to. On a page
without a root they lead nowhere, and it fails if there are any. -/
theorem step_applyStyle (hy : y.operation = .ok (.applyStyle spec targets))
    (h : (d.everything.map (·.id)).Nodup) :
    i.step d y =
      ((defineStyle spec d).revise (Facet.dress (d.ledIds i.key targets) spec.name.text) nothing,
        resultOf y.name (if targets.isEmpty || d.root?.isSome then
          .ok (.styleApplied spec.name.text (d.ledIds i.key targets).length
            (d.unledOids i.key targets))
        else .error (.refused .noRoot))) := by
  have hperform : i.perform d (.applyStyle spec targets) = applyStyle i.key spec targets d := rfl
  rw [step_eq i d hy, hperform]
  by_cases hroot : targets = [] ∨ d.root?.isSome = true
  · have hcondition : (targets.isEmpty || d.root?.isSome) = true := by
      rwa [Bool.or_eq_true, List.isEmpty_iff]
    rw [applyStyle_eq i.key spec targets h hroot, if_pos hcondition]
  · obtain ⟨htargets, hnone⟩ := not_or.mp hroot
    have hcondition : ¬(targets.isEmpty || d.root?.isSome) = true := by
      rwa [Bool.or_eq_true, List.isEmpty_iff]
    have hnowhere : d.ledIds i.key targets = [] := by
      refine List.eq_nil_iff_forall_not_mem.mpr fun id hid => ?_
      obtain ⟨target, _, e, hfound, _⟩ := mem_ledIds.mp hid
      obtain ⟨root, hsome, _⟩ := resolve_mem hfound
      exact hnone (by rw [hsome]; rfl)
    have hmissing : (defineStyle spec d).root? = none := by
      rw [root?_defineStyle]
      exact Option.not_isSome_iff_eq_none.mp hnone
    rw [if_neg hcondition, hnowhere, Facet.dress_nil, revise_same, applyStyle,
      styleTargets_noRoot i.key spec.name.text htargets 0 [] hmissing]

/-- Two instructions that leave the same document in either order, with the same result each. -/
structure Commute (i : Interpreter) (d : Document) (x y : Instruction) : Prop where
  after : (i.step (i.step d x).1 y).1 = (i.step (i.step d y).1 x).1
  first : (i.step (i.step d y).1 x).2 = (i.step d x).2
  second : (i.step (i.step d x).1 y).2 = (i.step d y).2

/-- Instructions commute if they edit a document and their edits commute. -/
theorem commute_of_edits {after : Document} {f g : Facet → Facet}
    (hxy : i.step (i.step d x).1 y =
      (after.revise (fun facet => g (f facet)) nothing, (i.step d y).2))
    (hyx : i.step (i.step d y).1 x =
      (after.revise (fun facet => f (g facet)) nothing, (i.step d x).2))
    (h : ∀ facet, f (g facet) = g (f facet)) : i.Commute d x y := by
  refine ⟨?_, by rw [hyx], by rw [hxy]⟩
  rw [hxy, hyx, funext h]

theorem map_map_const {α β : Type} (outcome : Except Failure α) (f : α → α) (value : β) :
    ((outcome.map f).map fun _ => value) = outcome.map fun _ => value := by
  cases outcome <;> rfl

/-- A text that is set after another one that is set elsewhere. -/
theorem step_text_text (hx : x.operation = .ok (.setText a first))
    (hy : y.operation = .ok (.setText b second)) (h : (d.everything.map (·.id)).Nodup)
    (hapart : Apart i.key d a b) :
    i.step (i.step d x).1 y =
      (d.revise (fun facet => wording second (written i.key b d)
        (wording first (written i.key a d) facet)) nothing, (i.step d y).2) := by
  have hrevises := revises_wording first (written i.key a d)
  rw [step_setText hx h, step_setText hy h]
  dsimp only
  rw [step_setText hy (distinct_revise hrevises h), written_wording h hapart,
    wording_revise hrevises, map_map_const, revise_revise]
  rfl

/-- A style that is given after a text was set. -/
theorem step_text_style (hx : x.operation = .ok (.setText target text))
    (hy : y.operation = .ok (.applyStyle spec targets)) (h : (d.everything.map (·.id)).Nodup) :
    i.step (i.step d x).1 y =
      ((defineStyle spec d).revise (fun facet => Facet.dress (d.ledIds i.key targets)
        spec.name.text (wording text (written i.key target d) facet)) nothing,
          (i.step d y).2) := by
  have hrevises := revises_wording text (written i.key target d)
  rw [step_setText hx h, step_applyStyle hy h]
  dsimp only
  rw [step_applyStyle hy (distinct_revise hrevises h), ledIds_revise hrevises,
    unledOids_revise hrevises, defineStyle_revise, revise_revise, root?_revise, Option.isSome_map]
  rfl

/-- A text that is set after a style was given. -/
theorem step_style_text (hx : x.operation = .ok (.setText target text))
    (hy : y.operation = .ok (.applyStyle spec targets)) (h : (d.everything.map (·.id)).Nodup) :
    i.step (i.step d y).1 x =
      ((defineStyle spec d).revise (fun facet => wording text (written i.key target d)
        (Facet.dress (d.ledIds i.key targets) spec.name.text facet)) nothing,
          (i.step d x).2) := by
  have hrevises : Facet.Revises (Facet.dress (d.ledIds i.key targets) spec.name.text) :=
    Facet.revises_dress
  rw [step_applyStyle hy h, step_setText hx h]
  dsimp only
  rw [step_setText hx (distinct_revise hrevises (distinct_defineStyle h)), written_dress,
    written_defineStyle, wording_revise hrevises, map_map_const, revise_revise]
  rfl

/-- Texts that are set for references that lead to different elements. -/
theorem commute_texts (hx : x.operation = .ok (.setText a first))
    (hy : y.operation = .ok (.setText b second)) (h : (d.everything.map (·.id)).Nodup)
    (hapart : Apart i.key d a b) : i.Commute d x y :=
  commute_of_edits (step_text_text hx hy h hapart) (step_text_text hy hx h hapart.symm)
    (wording_wording h hapart first second)

/-- A text and a style, whatever their references lead to. -/
theorem commute_style (hx : x.operation = .ok (.setText target text))
    (hy : y.operation = .ok (.applyStyle spec targets)) (h : (d.everything.map (·.id)).Nodup) :
    i.Commute d x y :=
  commute_of_edits (step_text_style hx hy h) (step_style_text hx hy h) (wording_dress _ _ _)

end

/-! ## Batches in another order -/

/-- Whether two instructions set texts for references that lead to different elements, if they lead
anywhere. -/
def SetApart (i : Interpreter) (d : Document) (x y : Instruction) : Prop :=
  ∃ a b first second, x.operation = .ok (.setText a first) ∧ y.operation = .ok (.setText b second) ∧
    Apart i.key d a b

section

variable {i : Interpreter} {d : Document} {x y z : Instruction} {batch batch' : List Instruction}

theorem SetApart.symm (h : i.SetApart d x y) : i.SetApart d y x := by
  obtain ⟨a, b, first, second, hx, hy, hapart⟩ := h
  exact ⟨b, a, second, first, hy, hx, hapart.symm⟩

theorem SetApart.commute (h : i.SetApart d x y) (hd : d.WellFormed) : i.Commute d x y := by
  obtain ⟨a, b, first, second, hx, hy, hapart⟩ := h
  exact commute_texts hx hy hd.distinct hapart

/-- What leads to different elements still does after a text was set. -/
theorem SetApart.step (h : i.SetApart d y z) (hd : d.WellFormed) (hx : i.SetApart d x y) :
    i.SetApart (i.step d x).1 y z := by
  obtain ⟨b, c, second, third, hy, hz, hapart⟩ := h
  obtain ⟨a, _, first, _, hsets, _⟩ := hx
  refine ⟨b, c, second, third, hy, hz, ?_⟩
  rw [step_setText hsets hd.distinct]
  exact hapart.revise hd.distinct (revises_wording first _)

theorem pairwise_step (h : (x :: batch).Pairwise (i.SetApart d)) (hd : d.WellFormed) :
    batch.Pairwise (i.SetApart (i.step d x).1) := by
  obtain ⟨hhead, htail⟩ := List.pairwise_cons.mp h
  exact htail.imp_of_mem fun hy _ hyz => hyz.step hd (hhead _ hy)

theorem wellFormed_step (hd : d.WellFormed) (x : Instruction) : (i.step d x).1.WellFormed := by
  rcases step_effect hd x with ⟨operation, _, heffect⟩ | ⟨_, _, hsame⟩
  · exact heffect.wellFormed hd
  · rwa [hsame]

/-- In a batch whose references lead to different elements, each instruction has the result that it
has alone. -/
theorem results_apart (hd : d.WellFormed) (h : batch.Pairwise (i.SetApart d)) :
    (i.run d batch).2 = batch.map fun x => (i.step d x).2 := by
  induction batch generalizing d with
  | nil => rfl
  | cons x rest ih =>
      rw [run_cons, List.map_cons, ih (wellFormed_step hd x) (pairwise_step h hd)]
      have hsame : ∀ y ∈ rest, (i.step (i.step d x).1 y).2 = (i.step d y).2 := fun y hy =>
        ((List.pairwise_cons.mp h).1 y hy).commute hd |>.second
      rw [List.map_congr_left hsame]

/-- Such batches leave the same document in any order. -/
theorem document_perm (hd : d.WellFormed) (hperm : batch.Perm batch')
    (h : batch.Pairwise (i.SetApart d)) : (i.run d batch).1 = (i.run d batch').1 := by
  induction hperm generalizing d with
  | nil => rfl
  | cons x _ ih =>
      rw [run_cons, run_cons]
      exact ih (wellFormed_step hd x) (pairwise_step h hd)
  | swap x y rest =>
      have hcommute := ((List.pairwise_cons.mp h).1 x List.mem_cons_self).commute hd
      rw [run_cons, run_cons, run_cons, run_cons, hcommute.after]
  | trans hfirst _ ih ih' =>
      have hmiddle := (hfirst.pairwise_iff SetApart.symm).mp h
      exact (ih hd h).trans (ih' hd hmiddle)

end

/-- Operations on texts commute if their references lead to different elements: in either order they
leave the same document, and each has the same result. So a batch of them leaves the same document
in any order, and each operation has the result that it has alone. An operation on texts commutes
with every operation on styles. -/
theorem texts_commute (i : Interpreter) {d : Document} (h : d.WellFormed) :
    (∀ x y, i.SetApart d x y → i.Commute d x y) ∧
    (∀ batch batch' : List Instruction, batch.Perm batch' → batch.Pairwise (i.SetApart d) →
      (i.run d batch).1 = (i.run d batch').1 ∧
      (i.run d batch).2 = batch.map (fun x => (i.step d x).2) ∧
      (i.run d batch').2 = batch'.map fun x => (i.step d x).2) ∧
    ∀ (x y : Instruction) (target : Reference) (text : Runes) (spec : StyleSpec)
      (targets : List Reference), x.operation = .ok (.setText target text) →
      y.operation = .ok (.applyStyle spec targets) → i.Commute d x y := by
  refine ⟨fun x y hapart => hapart.commute h, fun batch batch' hperm hapart => ⟨?_, ?_, ?_⟩,
    fun x y target text spec targets hx hy => commute_style hx hy h.distinct⟩
  · exact document_perm h hperm hapart
  · exact results_apart h hapart
  · exact results_apart h ((hperm.pairwise_iff SetApart.symm).mp hapart)

/-- A card with a note in it, which shows nothing, and a reference that leads nowhere. -/
theorem texts_commute_card :
    let i : Interpreter := ⟨"data-oid", .int 0⟩
    let note : Node := ⟨⟨"p", by decide, by decide⟩, some "note", none, none, none, none⟩
    let card : Node := ⟨⟨"div", by decide, by decide⟩, some "card", some "Old", none, none,
      some [note]⟩
    let d := (i.run .fresh [.ready (.buildTree .root card)]).1
    let x : Instruction := .ready (.setText ⟨⟨"card", by decide, by decide⟩, none⟩ "New")
    let y : Instruction := .ready (.setText ⟨⟨"card", by decide, by decide⟩, some "p"⟩ "Note")
    let z : Instruction := .ready (.setText ⟨⟨"ghost", by decide, by decide⟩, none⟩ "Boo")
    let style : Instruction := .ready (.applyStyle ⟨⟨"Wide", by decide, by decide⟩, .empty, none⟩
      [⟨⟨"note", by decide, by decide⟩, none⟩, ⟨⟨"card", by decide, by decide⟩, none⟩])
    d.WellFormed ∧ [x, y, z].Pairwise (i.SetApart d) ∧ [x, y, z].Perm [z, y, x] ∧
      i.Commute d x y ∧ (i.run d [x, y, z]).1 = (i.run d [z, y, x]).1 ∧ i.Commute d x style := by
  intro i note card d x y z style
  have hwell : d.WellFormed := (run_wellFormed (Reachable.wellFormed .fresh) _).1
  have hxy : i.SetApart d x y := ⟨_, _, _, _, rfl, rfl, apart_of_ids (by decide +kernel)⟩
  have hxz : i.SetApart d x z := ⟨_, _, _, _, rfl, rfl, apart_of_ids (by decide +kernel)⟩
  have hyz : i.SetApart d y z := ⟨_, _, _, _, rfl, rfl, apart_of_ids (by decide +kernel)⟩
  have hpairs : [x, y, z].Pairwise (i.SetApart d) := by
    simp [hxy, hxz, hyz]
  have hperm : [x, y, z].Perm [z, y, x] := (List.reverse_perm [x, y, z]).symm
  obtain ⟨hcommute, hbatch, hstyle⟩ := texts_commute i hwell
  exact ⟨hwell, hpairs, hperm, hcommute x y hxy, (hbatch _ _ hperm hpairs).1,
    hstyle x style _ _ _ _ rfl rfl⟩

end Interpreter

end DesignBridge
