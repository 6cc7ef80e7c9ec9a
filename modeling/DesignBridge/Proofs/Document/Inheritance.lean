import DesignBridge.Proofs.Document.Reachable
import Mathlib.Data.List.Induction
import Mathlib.Logic.Relation

/-! # Styles that build on others

Nothing keeps a style from building on itself. As long as no operation names, as the parent of a
style, one that builds on this style, every style leads to one without parent. The first operation
that does makes its style an ancestor of itself, whether or not it succeeds.
-/

namespace DesignBridge

namespace Document

/-- The parent of the style with a name, if there is such a style and it has one. -/
def parent? (d : Document) (name : Runes) : Option Runes :=
  (d.styles.get? name).bind (·.parent)

/-- Whether following parents from a style reaches a style without parent after finitely many
steps. -/
inductive Founded (d : Document) : Runes → Prop
  | top {name : Runes} (hthere : name ∈ d.styles.keys) (hnone : d.parent? name = none) :
      Founded d name
  | under {name parent : Runes} (hparent : d.parent? name = some parent)
      (h : Founded d parent) : Founded d name

/-- Whether that holds of every style in the table. -/
def Grounded (d : Document) : Prop :=
  ∀ name ∈ d.styles.keys, d.Founded name

/-- Whether a style is another one or builds on it, perhaps through others. -/
def BuildsOn (d : Document) : Runes → Runes → Prop :=
  Relation.ReflTransGen fun name parent => d.parent? name = some parent

/-- Whether a style is an ancestor of another one. -/
def Ancestor (d : Document) (above name : Runes) : Prop :=
  Relation.TransGen (fun name parent => d.parent? name = some parent) name above

/-- Whether an instruction names, as the parent of a style, one that is this style or builds on
it. -/
def Circular (d : Document) (name : Runes) (instruction : Instruction) : Prop :=
  ∃ spec targets parent, instruction.operation = .ok (.applyStyle spec targets) ∧
    spec.name.text = name ∧ Sketch.nonempty? spec.parent = some parent ∧ d.BuildsOn parent name

section

variable {d after : Document} {name : Runes}

theorem parent?_eq_none (h : name ∉ d.styles.keys) : d.parent? name = none := by
  rw [Table.mem_keys_iff, Option.not_isSome_iff_eq_none] at h
  rw [parent?, h]
  rfl

theorem mem_keys_of_parent? {parent : Runes} (h : d.parent? name = some parent) :
    name ∈ d.styles.keys := by
  by_contra hmissing
  rw [parent?_eq_none hmissing] at h
  cases h

theorem Founded.of_parent (hthere : name ∈ d.styles.keys)
    (h : ∀ parent, d.parent? name = some parent → d.Founded parent) : d.Founded name := by
  cases hparent : d.parent? name with
  | none => exact .top hthere hparent
  | some parent => exact .under hparent (h parent hparent)

/-- Whoever leads to a style without parent is no ancestor of itself. -/
theorem Founded.not_ancestor (h : d.Founded name) : ¬d.Ancestor name name := by
  induction h with
  | top _ hnone =>
      intro hloop
      obtain ⟨parent, hparent, _⟩ := Relation.TransGen.head'_iff.mp hloop
      rw [hnone] at hparent
      cases hparent
  | @under name parent hparent _ ih =>
      intro hloop
      obtain ⟨first, hfirst, hback⟩ := Relation.TransGen.head'_iff.mp hloop
      obtain rfl : parent = first := Option.some.inj (hparent.symm.trans hfirst)
      exact ih (Relation.TransGen.tail' hback hparent)

theorem Grounded.not_ancestor (h : d.Grounded) : ¬d.Ancestor name name := by
  intro hloop
  obtain ⟨parent, hparent, _⟩ := Relation.TransGen.head'_iff.mp hloop
  exact (h name (mem_keys_of_parent? hparent)).not_ancestor hloop

theorem Founded.congr (hstyles : after.styles = d.styles) (h : d.Founded name) :
    after.Founded name := by
  have hparent : ∀ name, after.parent? name = d.parent? name := fun name => by
    rw [parent?, parent?, hstyles]
  induction h with
  | top hthere hnone => exact .top (hstyles ▸ hthere) ((hparent _).trans hnone)
  | under hup _ ih => exact .under ((hparent _).trans hup) ih

theorem ancestor_congr (hstyles : after.styles = d.styles) {above : Runes} :
    after.Ancestor above name ↔ d.Ancestor above name := by
  unfold Ancestor parent?
  rw [hstyles]

theorem Grounded.congr (hstyles : after.styles = d.styles) (h : d.Grounded) : after.Grounded :=
  fun name hname => (h name (hstyles ▸ hname)).congr hstyles

end

end Document

/-! ## Definitions -/

namespace Interpreter

open Document

variable {i : Interpreter} {d after : Document} {spec : StyleSpec} {name parent : Runes}

/-- Of all parents, a definition changes at most that of the style it is about. -/
theorem parent?_defineStyle (spec : StyleSpec) (d : Document) (name : Runes) :
    (defineStyle spec d).parent? name =
      if name = spec.name.text then (Sketch.nonempty? spec.parent).or (d.parent? name)
      else d.parent? name := by
  unfold parent?
  rw [get?_defineStyle]
  split
  next => rfl
  next =>
    split
    next => cases d.styles.get? name <;> rfl
    next => rfl

theorem mem_keys_defineStyle : name ∈ (defineStyle spec d).styles.keys ↔
    name ∈ d.styles.keys ∨ name = spec.name.text ∨ Sketch.nonempty? spec.parent = some name := by
  simp only [Table.mem_keys_iff, get?_defineStyle]
  split
  next heq => simp [heq]
  next hne =>
    split
    next heq => simp [heq]
    next hother => simp [hne, hother]

theorem parent?_defineStyle_cases (h : (defineStyle spec d).parent? name = some parent) :
    name = spec.name.text ∧ Sketch.nonempty? spec.parent = some parent ∨
      d.parent? name = some parent := by
  rw [parent?_defineStyle] at h
  split at h
  next heq => exact (Option.or_eq_some_iff.mp h).imp (fun hnew => ⟨heq, hnew⟩) And.right
  next => exact .inr h

/-- Whoever led to a style without parent still does, unless it builds on the style that gets a
parent, and this parent does not. -/
theorem founded_defineStyle
    (hparent : d.BuildsOn name spec.name.text → ∀ parent,
      Sketch.nonempty? spec.parent = some parent → (defineStyle spec d).Founded parent)
    (h : d.Founded name) : (defineStyle spec d).Founded name := by
  induction h with
  | @top name hthere hnone =>
      refine .of_parent (mem_keys_defineStyle.mpr (.inl hthere)) fun next hnext => ?_
      obtain ⟨rfl, hnew⟩ | hold := parent?_defineStyle_cases hnext
      · exact hparent .refl next hnew
      · rw [hnone] at hold
        cases hold
  | @under name up hup _ ih =>
      have hthere := mem_keys_of_parent? hup
      refine .of_parent (mem_keys_defineStyle.mpr (.inl hthere)) fun next hnext => ?_
      obtain ⟨rfl, hnew⟩ | hold := parent?_defineStyle_cases hnext
      · exact hparent .refl next hnew
      · obtain rfl := Option.some.inj (hup.symm.trans hold)
        exact ih fun hback => hparent (.head hup hback)

/-- A definition whose parent does not build on the style itself keeps all styles grounded. -/
theorem grounded_defineStyle (h : d.Grounded)
    (hapart : ∀ parent, Sketch.nonempty? spec.parent = some parent →
      ¬d.BuildsOn parent spec.name.text) : (defineStyle spec d).Grounded := by
  have hparent : ∀ parent, Sketch.nonempty? spec.parent = some parent →
      (defineStyle spec d).Founded parent := by
    intro parent hnew
    by_cases hthere : parent ∈ d.styles.keys
    · exact founded_defineStyle (fun hback => absurd hback (hapart parent hnew)) (h parent hthere)
    · refine .of_parent (mem_keys_defineStyle.mpr (.inr (.inr hnew))) fun next hnext => ?_
      obtain ⟨rfl, _⟩ | hold := parent?_defineStyle_cases hnext
      · exact absurd .refl (hapart _ hnew)
      · exact absurd (mem_keys_of_parent? hold) hthere
  intro name hname
  by_cases hthere : name ∈ d.styles.keys
  · exact founded_defineStyle (fun _ => hparent) (h name hthere)
  · refine .of_parent hname fun next hnext => ?_
    obtain ⟨_, hnew⟩ | hold := parent?_defineStyle_cases hnext
    · exact hparent next hnew
    · exact absurd (mem_keys_of_parent? hold) hthere

/-- What builds on the style before its definition does so after it. -/
theorem buildsOn_defineStyle (h : d.BuildsOn name spec.name.text) :
    (defineStyle spec d).BuildsOn name spec.name.text := by
  induction h using Relation.ReflTransGen.head_induction_on with
  | refl => exact .refl
  | @head name next hnext _ ih =>
      by_cases hname : name = spec.name.text
      · exact hname ▸ .refl
      · refine .head ?_ ih
        rw [parent?_defineStyle, if_neg hname]
        exact hnext

/-- A definition whose parent builds on the style makes the style an ancestor of itself. -/
theorem ancestor_defineStyle (hnew : Sketch.nonempty? spec.parent = some parent)
    (h : d.BuildsOn parent spec.name.text) :
    (defineStyle spec d).Ancestor spec.name.text spec.name.text := by
  refine Relation.TransGen.head' ?_ (buildsOn_defineStyle h)
  rw [parent?_defineStyle, if_pos rfl, hnew, Option.some_or]

/-! ## Steps -/

/-- Of all operations, only the one that defines a style changes the styles, whether or not it
succeeds. -/
theorem Effect.styles {operation : Operation} {succeeded : Bool}
    (heffect : Effect i d operation succeeded after) :
    after.styles = d.styles ∨ ∃ spec targets, operation = .applyStyle spec targets ∧
      after.styles = (defineStyle spec d).styles := by
  cases heffect with
  | idle | page | text => exact .inl rfl
  | tree hgrown | image hgrown =>
      rw [hgrown.eq]
      exact .inl rfl
  | style => exact .inr ⟨_, _, rfl, rfl⟩

/-- And that one always does. -/
theorem step_defineStyle (h : d.WellFormed) {x : Instruction} {targets : List Reference}
    (hx : x.operation = .ok (.applyStyle spec targets)) :
    (i.step d x).1.styles = (defineStyle spec d).styles := by
  have hstep : (i.step d x).1 = (applyStyle i.key spec targets d).1 := by
    rw [step, hx]
    rfl
  have hdistinct : ((defineStyle spec d).everything.map (·.id)).Nodup := by
    rw [defineStyle_eq]
    exact h.distinct
  obtain ⟨edit, hafter, _⟩ := styleTargets_dresses i.key spec.name.text targets 0 [] hdistinct
  rw [hstep, applyStyle, hafter]
  rfl

theorem step_grounded (hwell : d.WellFormed) (h : d.Grounded) {x : Instruction}
    (hfree : ∀ name, ¬d.Circular name x) : (i.step d x).1.Grounded := by
  rcases step_effect (i := i) hwell x with ⟨operation, hoperation, heffect⟩ | ⟨_, _, hsame⟩
  · obtain hkept | ⟨spec, targets, rfl, hdefined⟩ := heffect.styles
    · exact h.congr hkept
    · refine Grounded.congr hdefined (grounded_defineStyle h fun parent hnew hback => ?_)
      exact hfree _ ⟨spec, targets, parent, hoperation, rfl, hnew, hback⟩
  · exact hsame.symm ▸ h

theorem step_ancestor (hwell : d.WellFormed) {x : Instruction} (h : d.Circular name x) :
    (i.step d x).1.Ancestor name name := by
  obtain ⟨spec, targets, parent, hx, rfl, hnew, hback⟩ := h
  exact (ancestor_congr (step_defineStyle hwell hx)).mpr (ancestor_defineStyle hnew hback)

end Interpreter

/-! ## Batches -/

namespace Document

/-- The document after batches, each run by its own interpreter. -/
def serve (d : Document) (batches : List (Interpreter × List Instruction)) : Document :=
  batches.foldl (fun d (i, batch) => (i.run d batch).1) d

/-- The document after steps. -/
def along (d : Document) (steps : List (Interpreter × Instruction)) : Document :=
  steps.foldl (fun d (i, x) => (i.step d x).1) d

/-- The steps that batches consist of. -/
def stepsOf (batches : List (Interpreter × List Instruction)) : List (Interpreter × Instruction) :=
  batches.flatMap fun (i, batch) => batch.map (i, ·)

theorem along_snoc (d : Document) (steps : List (Interpreter × Instruction)) (i : Interpreter)
    (x : Instruction) : d.along (steps ++ [(i, x)]) = (i.step (d.along steps) x).1 :=
  List.foldl_append

theorem along_batch (d : Document) (i : Interpreter) (batch : List Instruction) :
    d.along (batch.map (i, ·)) = (i.run d batch).1 := by
  induction batch generalizing d with
  | nil => rfl
  | cons x rest ih => exact ih (i.step d x).1

/-- Batches do what their steps do. -/
theorem along_stepsOf (d : Document) (batches : List (Interpreter × List Instruction)) :
    d.along (stepsOf batches) = d.serve batches := by
  induction batches generalizing d with
  | nil => rfl
  | cons batch rest ih =>
      have hsplit : stepsOf (batch :: rest) = batch.2.map (batch.1, ·) ++ stepsOf rest := rfl
      rw [hsplit, along, List.foldl_append, ← along, ← along, along_batch]
      exact ih _

theorem along_wellFormed (steps : List (Interpreter × Instruction)) :
    (fresh.along steps).WellFormed ∧ (fresh.along steps).Rooted := by
  induction steps using List.reverseRecOn with
  | nil => exact Reachable.fresh.wellFormed
  | append_singleton steps step ih =>
      rw [along_snoc]
      exact Interpreter.step_wellFormed ih step.2

theorem fresh_grounded : fresh.Grounded :=
  fun _ hname => by cases hname

/-- While batches run on a fresh document, every style leads to one without parent just as long as
no instruction names, as the parent of a style, one that is this style or builds on it. An
instruction that does so makes the style an ancestor of itself. -/
theorem styles_grounded_iff (batches : List (Interpreter × List Instruction)) :
    let steps := stepsOf batches
    fresh.along steps = fresh.serve batches ∧
      ((∀ before, before <+: steps → (fresh.along before).Grounded) ↔
        ∀ before i x, before ++ [(i, x)] <+: steps →
          ∀ name, ¬(fresh.along before).Circular name x) ∧
      ∀ before i x name, before ++ [(i, x)] <+: steps → (fresh.along before).Circular name x →
        (fresh.along (before ++ [(i, x)])).Ancestor name name := by
  intro steps
  have hloops : ∀ before i x name, (fresh.along before).Circular name x →
      (fresh.along (before ++ [(i, x)])).Ancestor name name := by
    intro before i x name hcircular
    rw [along_snoc]
    exact Interpreter.step_ancestor (along_wellFormed before).1 hcircular
  refine ⟨along_stepsOf fresh batches, ⟨fun hall before i x hbefore name hcircular => ?_, ?_⟩,
    fun before i x name _ => hloops before i x name⟩
  · exact (hall _ hbefore).not_ancestor (hloops before i x name hcircular)
  · intro hfree before hbefore
    induction before using List.reverseRecOn with
    | nil => exact fresh_grounded
    | append_singleton before step ih =>
        rw [along_snoc]
        exact Interpreter.step_grounded (along_wellFormed before).1
          (ih ((List.prefix_append _ _).trans hbefore)) (hfree before step.1 step.2 hbefore)

/-- A style that is given itself as its parent. -/
theorem styles_not_grounded_loop :
    let i : Interpreter := ⟨"data-oid", .int 0⟩
    let loop : StyleSpec := ⟨⟨"loop", by decide, by decide⟩, .empty, some "loop"⟩
    let d := fresh.serve [(i, [.ready (.applyStyle loop [])])]
    d.parent? "loop" = some ↑"loop" ∧ d.Ancestor "loop" "loop" ∧ ¬d.Grounded := by
  intro i loop d
  have hparent : d.parent? "loop" = some ↑"loop" := by decide
  exact ⟨hparent, .single hparent, fun hgrounded => hgrounded.not_ancestor (.single hparent)⟩

end Document

end DesignBridge
