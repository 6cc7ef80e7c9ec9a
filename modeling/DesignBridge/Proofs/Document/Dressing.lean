import DesignBridge.Proofs.Document.Target

/-! # Giving a style to elements

An operation on styles defines a style and gives it to what its references lead to. Neither the
definition nor the elements that were given the style before change where a reference leads, so the
result can be told from the document as it was: how many references lead somewhere, which ones lead
nowhere, and which elements have the style afterwards. Doing it once more changes nothing.
-/

namespace DesignBridge

/-! ## Defining a style twice -/

theorem Entries.put_of_lookup {α : Type} {entries : Entries α} {name : Runes} {value : α}
    (h : entries.lookup name = some value) : entries.put name value = entries := by
  induction entries with
  | nil => cases h
  | cons head rest ih =>
      obtain ⟨other, old⟩ := head
      rw [Entries.put]
      by_cases hname : other = name
      · subst hname
        rw [List.lookup_cons_self] at h
        rw [if_pos rfl, Option.some.inj h]
      · have hbeq : (name == other) = false := beq_false_of_ne (Ne.symm hname)
        rw [List.lookup_cons, hbeq] at h
        rw [if_neg hname, ih h]

namespace Table

variable {α : Type} {table : Table α} {name : Runes}

/-- Setting a name to the value that it has changes nothing. -/
theorem insert_of_get? {value : α} (h : table.get? name = some value) :
    table.insert name value = table :=
  ext_entries (Entries.put_of_lookup h)

theorem modify_of_get? {value : α} {f : α → α} (h : table.get? name = some value)
    (hf : f value = value) : table.modify name f = table := by
  unfold modify
  rw [h]
  dsimp only
  rw [hf, insert_of_get? h]

/-- Every name stands once. -/
theorem count_keys (h : name ∈ table.keys) : table.keys.count name = 1 :=
  List.count_eq_one_of_mem table.nodup h

end Table

namespace Document

theorem createStyle_of_mem {d : Document} {name : Runes} (h : name ∈ d.styles.keys) :
    d.createStyle name = d := by
  unfold createStyle Table.contains
  rw [if_pos (List.contains_iff_mem.mpr h)]

end Document

namespace Interpreter

open Document
open Element (nothing)

/-- Defining a style as it is defined already changes nothing. -/
theorem defineStyle_of_defined {spec : StyleSpec} {d : Document} {style : Style}
    (hstyle : d.styles.get? spec.name.text = some style)
    (hproperties : style.properties = spec.properties)
    (hparent : ∀ parent, Sketch.nonempty? spec.parent = some parent →
      parent ∈ d.styles.keys ∧ style.parent = some parent) : defineStyle spec d = d := by
  have hcreate : d.createStyle spec.name.text = d :=
    createStyle_of_mem (Table.mem_keys_of_get? hstyle)
  have hset : d.setProperties spec.name.text spec.properties = d := by
    unfold setProperties
    rw [Table.modify_of_get? hstyle (by rw [← hproperties])]
  unfold defineStyle
  cases hspec : Sketch.nonempty? spec.parent with
  | none =>
      dsimp only
      rw [hcreate, hset]
  | some parent =>
      obtain ⟨hthere, hbase⟩ := hparent parent hspec
      dsimp only
      rw [createStyle_of_mem hthere, hcreate, hset]
      unfold setParent
      rw [Table.modify_of_get? hstyle (by rw [← hbase])]

theorem defineStyle_defineStyle (spec : StyleSpec) (d : Document) :
    defineStyle spec (defineStyle spec d) = defineStyle spec d := by
  refine defineStyle_of_defined ((get?_defineStyle spec d spec.name.text).trans (if_pos rfl)) rfl
    fun parent hparent => ⟨?_, by rw [hparent, Option.some_or]⟩
  rw [Table.mem_keys_iff, get?_defineStyle, if_pos hparent]
  split <;> rfl

end Interpreter

/-! ## Dressing elements -/

/-- The edit that gives a style, and no other one, to the facets with some numbers. -/
def Facet.dress (ids : List Nat) (name : Runes) : Facet → Facet :=
  fun facet => if facet.id ∈ ids then { facet with styles := [name] } else facet

namespace Facet

variable {ids : List Nat} {name : Runes}

theorem revises_dress : Revises (dress ids name) := by
  intro facet
  unfold dress
  split
  next => exact ⟨facet.text, [name], rfl⟩
  next => exact revises_same facet

theorem dress_nil : dress [] name = fun facet => facet := by
  funext facet
  exact if_neg List.not_mem_nil

/-- Dressing some facets and then others. -/
theorem dress_dress (first second : List Nat) (name : Runes) (facet : Facet) :
    dress second name (dress first name facet) = dress (first ++ second) name facet := by
  unfold dress
  by_cases hfirst : facet.id ∈ first
  · rw [if_pos hfirst, if_pos (List.mem_append_left second hfirst)]
    exact ite_self _
  · rw [if_neg hfirst]
    simp only [List.mem_append, hfirst, false_or]

theorem dress_twice (ids : List Nat) (name : Runes) (facet : Facet) :
    dress ids name (dress ids name facet) = dress ids name facet := by
  rw [dress_dress]
  unfold dress
  simp only [List.mem_append, or_self]

theorem only_styles (id : Nat) (name : Runes) :
    only id ({ · with styles := [name] }) = dress [id] name := by
  funext facet
  unfold only dress
  simp only [List.mem_singleton]

end Facet

namespace Document

open Element (nothing)

/-- The numbers of what references lead to. -/
def ledIds (d : Document) (key : Runes) (targets : List Reference) : List Nat :=
  targets.filterMap fun target => (d.led? key target).map (·.id)

/-- The identifiers of the references that lead nowhere. -/
def unledOids (d : Document) (key : Runes) (targets : List Reference) : List Runes :=
  (targets.filter fun target => (d.led? key target).isNone).map (·.oid.text)

variable {d : Document} {key : Runes} {target : Reference} {edit : Facet → Facet}

theorem ledIds_revise (hedit : Facet.Revises edit) (key : Runes) (targets : List Reference) :
    (d.revise edit nothing).ledIds key targets = d.ledIds key targets := by
  unfold ledIds
  congr 1
  funext target
  rw [led?_revise hedit, Option.map_map]
  exact congrArg (Option.map · _) (funext fun e => Element.id_revise hedit.id e)

theorem unledOids_revise (hedit : Facet.Revises edit) (key : Runes) (targets : List Reference) :
    (d.revise edit nothing).unledOids key targets = d.unledOids key targets := by
  unfold unledOids
  simp only [led?_revise hedit, Option.isNone_map]

theorem length_ledIds_add (d : Document) (key : Runes) (targets : List Reference) :
    (d.ledIds key targets).length + (d.unledOids key targets).length = targets.length := by
  unfold ledIds unledOids
  induction targets with
  | nil => rfl
  | cons target rest ih =>
      cases hled : d.led? key target with
      | none => simp [hled] at ih ⊢; omega
      | some e => simp [hled] at ih ⊢; omega

theorem mem_ledIds {targets : List Reference} {id : Nat} :
    id ∈ d.ledIds key targets ↔ ∃ target ∈ targets, ∃ e,
      d.resolve key target.oid.text target.selector = .ok (some e) ∧ e.id = id := by
  unfold ledIds
  simp only [List.mem_filterMap, Option.map_eq_some_iff]
  constructor
  · rintro ⟨target, htarget, e, he, hid⟩
    exact ⟨target, htarget, e, resolve_of_led? he, hid⟩
  · rintro ⟨target, htarget, e, he, hid⟩
    exact ⟨target, htarget, e, led?_of_resolve he, hid⟩

end Document

namespace Interpreter

open Document
open Element (nothing)

section

variable {d : Document} {key name : Runes} {spec : StyleSpec}

/-- What giving a style to what references lead to does, told from the document as it was at
first. -/
theorem styleTargets_eq (key name : Runes) (targets : List Reference) (count : Nat)
    (skipped : List Runes) (h : (d.everything.map (·.id)).Nodup)
    (hroot : targets = [] ∨ d.root?.isSome = true) :
    styleTargets key name targets count skipped d =
      (d.revise (Facet.dress (d.ledIds key targets) name) nothing,
        .ok (.styleApplied name (count + (d.ledIds key targets).length)
          (skipped.reverse ++ d.unledOids key targets))) := by
  induction targets generalizing count skipped d with
  | nil =>
      have hsame : d.revise (Facet.dress [] name) nothing = d := by
        rw [Facet.dress_nil, revise_same]
      exact congrArg₂ Prod.mk hsame.symm (by simp [unledOids, ledIds])
  | cons target rest ih =>
      have hthere : d.root?.isSome = true := hroot.resolve_left (List.cons_ne_nil _ _)
      obtain ⟨found, hfound⟩ := resolve_ok hthere key target.oid.text target.selector
      have hled := led?_of_resolve hfound
      unfold styleTargets
      rw [hfound]
      dsimp only
      cases found with
      | none =>
          have hids : d.ledIds key (target :: rest) = d.ledIds key rest := by
            simp [ledIds, hled]
          have hoids : d.unledOids key (target :: rest) =
              target.oid.text :: d.unledOids key rest := by
            simp [unledOids, hled]
          rw [Option.filter_none, hids, hoids]
          dsimp only
          rw [ih count (target.oid.text :: skipped) h (Or.inr hthere), List.reverse_cons,
            List.append_assoc, List.singleton_append]
      | some e =>
          have hids : d.ledIds key (target :: rest) = e.id :: d.ledIds key rest := by
            simp [ledIds, hled]
          have hoids : d.unledOids key (target :: rest) = d.unledOids key rest := by
            simp [unledOids, hled]
          have hcan := can_styles_of_resolve hfound
          have hrevises : Facet.Revises (Facet.dress [e.id] name) := Facet.revises_dress
          have hfilter : (some e).filter (·.can .styles) = some e :=
            Option.filter_eq_some_iff.mpr ⟨rfl, hcan⟩
          have hdistinct := distinct_revise hrevises h
          have hrooted : (d.revise (Facet.dress [e.id] name) nothing).root?.isSome = true := by
            rw [root?_revise, Option.isSome_map]
            exact hthere
          have hdressed : (d.revise (Facet.dress [e.id] name) nothing).revise
              (Facet.dress (d.ledIds key rest) name) nothing =
                d.revise (Facet.dress (e.id :: d.ledIds key rest) name) nothing := by
            refine (revise_revise _ d).trans (congrArg (d.revise · nothing) ?_)
            funext facet
            exact Facet.dress_dress [e.id] _ name facet
          rw [hfilter]
          dsimp only
          rw [setStyles_ok d [name] hcan, modifyFacet_eq_revise _ _ h, Facet.only_styles]
          dsimp only
          rw [ih (count + 1) skipped hdistinct (Or.inr hrooted), ledIds_revise hrevises,
            unledOids_revise hrevises, hdressed, hids, hoids, List.length_cons]
          congr 3
          omega

theorem resolve_defineStyle (spec : StyleSpec) (d : Document) (key oid : Runes)
    (selector : Option Runes) :
    (defineStyle spec d).resolve key oid selector = d.resolve key oid selector := by
  rw [defineStyle_eq]
  rfl

theorem ledIds_defineStyle (targets : List Reference) :
    (defineStyle spec d).ledIds key targets = d.ledIds key targets := by
  unfold ledIds led?
  simp only [resolve_defineStyle]

theorem unledOids_defineStyle (targets : List Reference) :
    (defineStyle spec d).unledOids key targets = d.unledOids key targets := by
  unfold unledOids led?
  simp only [resolve_defineStyle]

theorem distinct_defineStyle (h : (d.everything.map (·.id)).Nodup) :
    ((defineStyle spec d).everything.map (·.id)).Nodup := by
  rw [defineStyle_eq]
  exact h

/-- What an operation on styles does, told from the document as it was at first. -/
theorem applyStyle_eq (key : Runes) (spec : StyleSpec) (targets : List Reference)
    (h : (d.everything.map (·.id)).Nodup) (hroot : targets = [] ∨ d.root?.isSome = true) :
    applyStyle key spec targets d =
      ((defineStyle spec d).revise (Facet.dress (d.ledIds key targets) spec.name.text) nothing,
        .ok (.styleApplied spec.name.text (d.ledIds key targets).length
          (d.unledOids key targets))) := by
  unfold applyStyle
  rw [styleTargets_eq key spec.name.text targets 0 [] (distinct_defineStyle h)
    (by rwa [root?_defineStyle]), ledIds_defineStyle, unledOids_defineStyle, Nat.zero_add,
    List.reverse_nil, List.nil_append]

theorem createStyle_revise (edit : Facet → Facet) (d : Document) (name : Runes) :
    (d.revise edit nothing).createStyle name = (d.createStyle name).revise edit nothing := by
  have hstyles : (d.revise edit nothing).styles = d.styles := rfl
  unfold createStyle
  rw [hstyles]
  split <;> rfl

/-- The trees of a document do not matter to the definition of a style. -/
theorem defineStyle_revise (spec : StyleSpec) (edit : Facet → Facet) (d : Document) :
    defineStyle spec (d.revise edit nothing) = (defineStyle spec d).revise edit nothing := by
  unfold defineStyle
  cases Sketch.nonempty? spec.parent with
  | none =>
      dsimp only
      rw [createStyle_revise]
      rfl
  | some parent =>
      dsimp only
      rw [createStyle_revise, createStyle_revise]
      rfl

/-- What an operation on styles did, it does again. -/
theorem applyStyle_applyStyle (key : Runes) (spec : StyleSpec) (targets : List Reference)
    (h : (d.everything.map (·.id)).Nodup) (hroot : targets = [] ∨ d.root?.isSome = true) :
    applyStyle key spec targets (applyStyle key spec targets d).1 =
      applyStyle key spec targets d := by
  have hrevises : Facet.Revises (Facet.dress (d.ledIds key targets) spec.name.text) :=
    Facet.revises_dress
  have hdefined : ((defineStyle spec d).everything.map (·.id)).Nodup := distinct_defineStyle h
  have hdistinct := distinct_revise hrevises hdefined
  have hrooted : targets = [] ∨ ((defineStyle spec d).revise
      (Facet.dress (d.ledIds key targets) spec.name.text) nothing).root?.isSome = true := by
    rwa [root?_revise, Option.isSome_map, root?_defineStyle]
  have htwice : ((defineStyle spec d).revise
      (Facet.dress (d.ledIds key targets) spec.name.text) nothing).revise
        (Facet.dress (d.ledIds key targets) spec.name.text) nothing =
      (defineStyle spec d).revise (Facet.dress (d.ledIds key targets) spec.name.text) nothing :=
    (revise_revise _ _).trans (congrArg ((defineStyle spec d).revise · nothing)
      (funext (Facet.dress_twice _ _)))
  rw [applyStyle_eq key spec targets h hroot]
  dsimp only
  rw [applyStyle_eq key spec targets hdistinct hrooted, ledIds_revise hrevises,
    unledOids_revise hrevises, ledIds_defineStyle, unledOids_defineStyle, defineStyle_revise,
    defineStyle_defineStyle, htwice]

theorem mem_keys_defined {name : Runes}
    (h : name = spec.name.text ∨ Sketch.nonempty? spec.parent = some name) :
    name ∈ (defineStyle spec d).styles.keys := by
  rw [Table.mem_keys_iff, get?_defineStyle]
  split
  next => rfl
  next hother =>
    rw [if_pos (h.resolve_left hother)]
    rfl

end

/-- What an operation on styles leaves of a document, with the number of references that led to an
element and the identifiers of those that led nowhere. -/
structure Styled (key : Runes) (d : Document) (spec : StyleSpec) (targets : List Reference)
    (after : Document) (applied : Nat) (skipped : List Runes) : Prop where
  counted : applied + skipped.length = targets.length
  skips : skipped = (targets.filter fun target => (d.led? key target).isNone).map (·.oid.text)
  /-- The style is in the table once. -/
  listed : after.styles.keys.count spec.name.text = 1
  /-- An empty parent is none, and the style keeps its former one. -/
  defined : after.styles.get? spec.name.text = some ⟨spec.properties,
    (Sketch.nonempty? spec.parent).or ((d.styles.get? spec.name.text).bind (·.parent))⟩
  based : ∀ parent, Sketch.nonempty? spec.parent = some parent →
    after.styles.keys.count parent = 1
  /-- What references lead to has this style alone, and nothing else changed on any element. -/
  dresses : ∃ edit, Facet.Revises edit ∧
    after = { d with styles := after.styles }.revise edit nothing ∧
    ∀ e ∈ d.everything,
      ((∃ target ∈ targets, d.resolve key target.oid.text target.selector = .ok (some e)) →
        edit e.facet = { e.facet with styles := [spec.name.text] }) ∧
      ((∀ target ∈ targets, d.resolve key target.oid.text target.selector ≠ .ok (some e)) →
        edit e.facet = e.facet)

theorem applyStyle_styled {d : Document} (h : d.WellFormed) (key : Runes) (spec : StyleSpec)
    (targets : List Reference) :
    Styled key d spec targets
      ((defineStyle spec d).revise (Facet.dress (d.ledIds key targets) spec.name.text) nothing)
      (d.ledIds key targets).length (d.unledOids key targets) where
  counted := length_ledIds_add d key targets
  skips := rfl
  listed := Table.count_keys (mem_keys_defined (Or.inl rfl))
  defined := (get?_defineStyle spec d spec.name.text).trans (if_pos rfl)
  based := fun parent hparent => Table.count_keys (mem_keys_defined (Or.inr hparent))
  dresses := by
    refine ⟨Facet.dress (d.ledIds key targets) spec.name.text, Facet.revises_dress, ?_,
      fun e he => ⟨?_, fun hnone => ?_⟩⟩
    · have hdefined : { d with styles := (defineStyle spec d).styles } = defineStyle spec d :=
        (defineStyle_eq spec d).symm
      exact congrArg (Document.revise _ nothing) hdefined.symm
    · rintro ⟨target, htarget, hfound⟩
      exact if_pos (mem_ledIds.mpr ⟨target, htarget, e, hfound, rfl⟩)
    · refine if_neg fun hmem => ?_
      obtain ⟨target, htarget, a, hfound, hid⟩ := mem_ledIds.mp hmem
      have hsame : a = e := List.inj_on_of_nodup_map h.distinct
        (mem_everything_of_mem_elements (resolve_mem_elements hfound)) he hid
      exact hnone target htarget (hsame ▸ hfound)

/-- Giving a style to elements of a well-formed document. If the page has a root, or there are no
references, the operation succeeds. It counts the references that lead to an element and lists the
identifiers of those that lead nowhere, in order. Afterwards the style is in the table once, with
the properties given and with the parent given, or with its former one if none is given. What the
references lead to has this style alone, and nothing else changed on any element. A second time the
result is the same, and the document stays as it is. References on a page without a root are refused
when the style is defined already. -/
theorem styles_applied (i : Interpreter) {d : Document} (h : d.WellFormed) {x : Instruction}
    {spec : StyleSpec} {targets : List Reference}
    (hx : x.operation = .ok (.applyStyle spec targets)) :
    (targets = [] ∨ d.root?.isSome = true →
      ∃ (after : Document) (applied : Nat) (skipped : List Runes),
        i.step d x = (after, ⟨x.name, true, .object [("styleName", .text spec.name.text),
          ("appliedTo", .int applied), ("skipped", .list (skipped.map .text))], none⟩) ∧
        Styled i.key d spec targets after applied skipped ∧
        i.step after x = i.step d x) ∧
    (targets ≠ [] → d.root? = none →
      i.step d x = (defineStyle spec d, resultOf x.name (.error (.refused .noRoot)))) := by
  have hstep : ∀ d : Document, i.step d x =
      ((applyStyle i.key spec targets d).1, resultOf x.name (applyStyle i.key spec targets d).2) :=
    fun d => step_eq i d hx
  constructor
  · intro hroot
    have hfirst := applyStyle_eq i.key spec targets h.distinct hroot
    have hsecond := applyStyle_applyStyle i.key spec targets h.distinct hroot
    refine ⟨_, _, _, ?_, applyStyle_styled h i.key spec targets, ?_⟩
    · rw [hstep, hfirst]
      rfl
    · rw [hfirst] at hsecond
      rw [hstep, hstep, hsecond, hfirst]
  · intro htargets hnone
    have hrefused := styleTargets_noRoot i.key spec.name.text htargets 0 []
      ((root?_defineStyle spec d).trans hnone)
    rw [hstep, applyStyle, hrefused]

/-- Of three references one leads nowhere, and two lead to the same card. -/
theorem styles_applied_card :
    let i : Interpreter := ⟨"data-oid", .int 0⟩
    let card : Node := ⟨⟨"div", by decide, by decide⟩, some "card", none, none, none, none⟩
    let d := (i.run .fresh [.ready (.buildTree .root card)]).1
    let spec : StyleSpec := ⟨⟨"Wide", by decide, by decide⟩, .ofList [("width", "100%")],
      some "Base"⟩
    let targets : List Reference :=
      [⟨⟨"card", by decide, by decide⟩, none⟩, ⟨⟨"ghost", by decide, by decide⟩, none⟩,
        ⟨⟨"card", by decide, by decide⟩, some ""⟩]
    let x : Instruction := .ready (.applyStyle spec targets)
    d.WellFormed ∧ x.operation = .ok (.applyStyle spec targets) ∧
      ∃ (after : Document) (applied : Nat),
        i.step d x = (after, ⟨x.name, true, .object [("styleName", .text "Wide"),
          ("appliedTo", .int applied), ("skipped", .list [.text "ghost"])], none⟩) ∧
        applied = 2 ∧ Styled i.key d spec targets after applied ["ghost"] ∧
        i.step after x = i.step d x := by
  intro i card d spec targets x
  have hwell : d.WellFormed := (run_wellFormed (Reachable.wellFormed .fresh) _).1
  have hroot : d.root?.isSome = true := by decide +kernel
  obtain ⟨after, applied, skipped, hstep, hstyled, hagain⟩ :=
    (styles_applied i hwell (x := x) rfl).1 (Or.inr hroot)
  have hskipped : skipped = [↑"ghost"] := by
    rw [hstyled.skips]
    decide +kernel
  subst hskipped
  have happlied : applied = 2 := Nat.add_right_cancel (m := 1) hstyled.counted
  exact ⟨hwell, rfl, after, applied, hstep, happlied, hstyled, hagain⟩

/-- On a page without a root the operation fails. -/
theorem styles_not_applied_rootless :
    bare.WellFormed ∧ ((⟨"data-oid", .int 0⟩ : Interpreter).step bare
      (.raw (.object [("op", .text "APPLY_STYLE"),
        ("style", .object [("name", .text "Wide"), ("properties", .object [])]),
        ("oids", .list [.text "title"])]))).2.success = false :=
  ⟨bare_wellFormed, by decide +kernel⟩

end Interpreter

end DesignBridge
