import DesignBridge.Proofs.Document.Frame

/-! # Paths that a selector describes

A selector describes paths: from an element that carries the identifier to a child that fits the
first segment, from there to a child that fits the second, and so on. Going along the segments layer
by layer finds where these paths end, in the order in which a search with backtracking would come
upon them.
-/

namespace DesignBridge

namespace Text

theorem lowerChar_ne_nil (c : Char) : lowerChar c ≠ [] := by
  unfold lowerChar
  split
  next => exact List.cons_ne_nil _ _
  next => split <;> exact List.cons_ne_nil _ _

theorem lowerBetween_ne_nil (before after : List Char) (c : Char) :
    lowerBetween before after c ≠ [] := by
  unfold lowerBetween
  split
  next => exact List.cons_ne_nil _ _
  next => exact lowerChar_ne_nil c

end Text

namespace Runes

theorem lowerAfter_cons_ne_nil (before : List Char) (r : Rune) (rest : List Rune) :
    lowerAfter before (r :: rest) ≠ [] := by
  cases r with
  | half n => exact List.cons_ne_nil _ _
  | char c =>
      rw [lowerAfter]
      exact List.append_ne_nil_of_left_ne_nil (by simpa using Text.lowerBetween_ne_nil _ _ c) _

/-- Only the empty text is empty in lower case. -/
theorem lower_eq_empty_iff {r : Runes} : r.lower = "" ↔ r = "" := by
  obtain ⟨list⟩ := r
  cases list with
  | nil => exact Iff.rfl
  | cons rune rest =>
      refine iff_of_false (fun h => lowerAfter_cons_ne_nil [] rune rest (congrArg Runes.list h)) ?_
      exact fun h => List.cons_ne_nil _ _ (congrArg Runes.list h)

end Runes

namespace Element

/-- Whether a segment describes an element: a plain one, with any tag if the segment is empty and
otherwise with its own, in any letter case. -/
def Fits (segment : Runes) (e : Element) : Prop :=
  e.kind = .dom ∧
    (segment = "" ∨ ∃ tag, e.facet.tag = some tag ∧ tag.lower = segment.lower)

/-- From an element along segments: the places of the children on the way, and where it ends. -/
inductive Descends : Element → List Runes → List Nat → Element → Prop
  | here (e : Element) : Descends e [] [] e
  | child {e child last : Element} {segment : Runes} {rest : List Runes} {place : Nat}
      {places : List Nat} (hchild : e.children[place]? = some child) (hfits : child.Fits segment)
      (hrest : Descends child rest places last) :
      Descends e (segment :: rest) (place :: places) last

/-- From one of some elements along segments; the place of that element comes first. -/
inductive Reaches (row : List Element) (segments : List Runes) : List Nat → Element → Prop
  | intro {e last : Element} {place : Nat} {places : List Nat} (he : row[place]? = some e)
      (hrest : Descends e segments places last) : Reaches row segments (place :: places) last

/-- Whether a path comes before another one: where they part, it goes to the earlier place. -/
def Before (places others : List Nat) : Prop :=
  List.Lex (· < ·) places others

theorem before_cons_iff {place other : Nat} {places others : List Nat} :
    Before (place :: places) (other :: others) ↔
      place < other ∨ place = other ∧ Before places others :=
  List.cons_lex_cons_iff

theorem eq_or_before_cons_iff {place other : Nat} {places others : List Nat} :
    (other :: others = place :: places ∨ Before (place :: places) (other :: others)) ↔
      place < other ∨ place = other ∧ (others = places ∨ Before places others) := by
  rw [before_cons_iff, List.cons.injEq, eq_comm, and_or_left, or_left_comm]

theorem Before.not_before {places others : List Nat} (h : Before places others) :
    ¬ Before others places :=
  List.lex_asymm Nat.lt_asymm h

/-! ## All paths in order -/

/-- What is found from each of some elements, with the place of that element before the other
places. -/
def spread (found : Element → List (List Nat × Element)) (row : List Element) :
    List (List Nat × Element) :=
  row.zipIdx.flatMap fun (e, place) => (found e).map fun (places, last) => (place :: places, last)

/-- All paths from an element along segments, and where they end. -/
def paths : List Runes → Element → List (List Nat × Element)
  | [], e => [([], e)]
  | segment :: rest, e =>
    spread (fun child => if child.kind = .dom && Selector.fits segment child.facet.tag
      then paths rest child else []) e.children

section

variable {found : Element → List (List Nat × Element)} {row : List Element} {segment : Runes}
  {segments : List Runes} {e last : Element} {places : List Nat}

theorem mem_spread : (places, last) ∈ spread found row ↔
    ∃ place rest e, places = place :: rest ∧ row[place]? = some e ∧ (rest, last) ∈ found e := by
  simp only [spread, List.mem_flatMap, List.mem_map, Prod.exists, Prod.mk.injEq,
    List.mem_zipIdx_iff_getElem?]
  constructor
  · rintro ⟨e, place, he, rest, _, hmem, rfl, rfl⟩
    exact ⟨place, rest, e, rfl, he, hmem⟩
  · rintro ⟨place, rest, e, rfl, he, hmem⟩
    exact ⟨e, place, he, rest, last, hmem, rfl, rfl⟩

theorem map_snd_spread (found : Element → List (List Nat × Element)) (row : List Element) :
    (spread found row).map Prod.snd = row.flatMap fun e => (found e).map Prod.snd := by
  have hrow : row.flatMap (fun e => (found e).map Prod.snd) =
      row.zipIdx.flatMap fun x => (found x.1).map Prod.snd := by
    conv_lhs => rw [← List.zipIdx_map_fst 0 row, List.flatMap_map]
  rw [hrow, spread, List.map_flatMap]
  simp only [List.map_map, Function.comp_def]

/-- The paths from the elements of a row are in order if those from each of them are. -/
theorem spread_pairwise (h : ∀ e ∈ row, (found e).Pairwise (Before ·.1 ·.1)) :
    (spread found row).Pairwise (Before ·.1 ·.1) := by
  refine List.pairwise_flatMap.mpr ⟨fun x hx => ?_, ?_⟩
  · refine List.pairwise_map.mpr ((h x.1 (List.fst_mem_of_mem_zipIdx hx)).imp fun hlt => ?_)
    exact before_cons_iff.mpr (Or.inr ⟨rfl, hlt⟩)
  · refine List.pairwise_iff_getElem.mpr fun m n hm hn hmn x hx y hy => ?_
    obtain ⟨_, _, rfl⟩ := List.mem_map.mp hx
    obtain ⟨_, _, rfl⟩ := List.mem_map.mp hy
    refine before_cons_iff.mpr (Or.inl ?_)
    simpa using hmn

theorem fits_iff : (decide (e.kind = .dom) && Selector.fits segment e.facet.tag) = true ↔
    e.Fits segment := by
  unfold Selector.fits Fits
  simp only [Bool.and_eq_true, decide_eq_true_eq, Bool.or_eq_true, Runes.isEmpty_iff,
    Runes.lower_eq_empty_iff, Option.any_eq_true, beq_iff_eq, Bool.not_eq_true',
    ← Bool.not_eq_true]
  refine and_congr_right fun _ => or_congr_right' fun hsegment => ?_
  constructor
  · rintro ⟨tag, htag, _, hlower⟩
    exact ⟨tag, htag, hlower⟩
  · rintro ⟨tag, htag, hlower⟩
    refine ⟨tag, htag, fun hempty => hsegment ?_, hlower⟩
    rwa [Runes.lower_eq_empty_iff.mpr hempty, eq_comm, Runes.lower_eq_empty_iff] at hlower

theorem mem_paths : (places, last) ∈ paths segments e ↔ Descends e segments places last := by
  induction segments generalizing e places with
  | nil =>
      rw [paths, List.mem_singleton, Prod.mk.injEq]
      constructor
      · rintro ⟨rfl, rfl⟩
        exact .here last
      · intro h
        cases h
        exact ⟨rfl, rfl⟩
  | cons segment rest ih =>
      rw [paths, mem_spread]
      constructor
      · rintro ⟨place, others, child, rfl, hchild, hmem⟩
        split at hmem
        next hfits => exact .child hchild (fits_iff.mp hfits) (ih.mp hmem)
        next => cases hmem
      · intro h
        cases h with
        | child hchild hfits hrest =>
            refine ⟨_, _, _, rfl, hchild, ?_⟩
            rw [if_pos (fits_iff.mpr hfits)]
            exact ih.mpr hrest

theorem mem_spread_paths : (places, last) ∈ spread (paths segments) row ↔
    Reaches row segments places last := by
  rw [mem_spread]
  constructor
  · rintro ⟨place, rest, e, rfl, he, hmem⟩
    exact .intro he (mem_paths.mp hmem)
  · intro h
    cases h with
    | intro he hrest => exact ⟨_, _, _, rfl, he, mem_paths.mpr hrest⟩

theorem paths_pairwise (segments : List Runes) (e : Element) :
    (paths segments e).Pairwise (Before ·.1 ·.1) := by
  induction segments generalizing e with
  | nil => exact List.pairwise_singleton _ _
  | cons segment rest ih =>
      refine spread_pairwise fun child _ => ?_
      split
      next => exact ih child
      next => exact .nil

end

end Element

namespace Document

open Element (Before Reaches spread paths)

theorem flatMap_filter {α β : Type} (p : α → Bool) (f : α → List β) (row : List α) :
    (row.filter p).flatMap f = row.flatMap fun a => if p a then f a else [] := by
  induction row with
  | nil => rfl
  | cons a rest ih =>
      rw [List.filter_cons, List.flatMap_cons, ← ih]
      split
      next => exact List.flatMap_cons
      next => exact (List.nil_append _).symm

/-- One layer further, each element stands for its paths by one segment more. -/
theorem narrow_flatMap_paths {layer : List Element}
    (hcapable : ∀ e ∈ layer, e.children ≠ [] → e.can .children = true) (segment : Runes)
    (rest : List Runes) :
    ((narrow segment layer).flatMap fun e => (paths rest e).map Prod.snd) =
      layer.flatMap fun e => (paths (segment :: rest) e).map Prod.snd := by
  unfold narrow
  rw [List.flatMap_assoc, flatMap_filter]
  refine List.flatMap_congr fun e he => ?_
  rw [paths, Element.map_snd_spread, flatMap_filter]
  split
  next =>
    refine List.flatMap_congr fun child _ => ?_
    split <;> rfl
  next hcannot =>
    have hnone : e.children = [] := by
      by_contra hne
      exact hcannot (hcapable e he hne)
    rw [hnone]
    rfl

/-- Going along segments layer by layer comes to where the paths from each element end, in order. -/
theorem follow_eq_paths {root : Element}
    (hcapable : ∀ e ∈ root.preorder, e.children ≠ [] → e.can .children = true)
    (segments : List Runes) {layer : List Element} (h : ∀ e ∈ layer, e ∈ root.preorder) :
    follow layer segments = layer.flatMap fun e => (paths segments e).map Prod.snd := by
  induction segments generalizing layer with
  | nil =>
      simp [follow, paths]
  | cons segment rest ih =>
      have hnext : ∀ child ∈ narrow segment layer, child ∈ root.preorder :=
        fun child => narrow_mem h
      have hstep : follow layer (segment :: rest) = follow (narrow segment layer) rest := rfl
      rw [hstep, ih hnext]
      exact narrow_flatMap_paths (fun e he => hcapable e (h e he)) segment rest

/-- Where paths are in order, the first end is the end of the least path. -/
theorem head?_lasts_eq_some_iff {found : List (List Nat × Element)} {e : Element}
    (h : found.Pairwise (Before ·.1 ·.1)) :
    (found.map Prod.snd).head? = some e ↔
      ∃ places, (places, e) ∈ found ∧
        ∀ others last, (others, last) ∈ found → others = places ∨ Before places others := by
  cases found with
  | nil => simp
  | cons first rest =>
      obtain ⟨places, last⟩ := first
      rw [List.pairwise_cons] at h
      obtain ⟨hfirst, -⟩ := h
      rw [List.map_cons, List.head?_cons, Option.some_inj]
      constructor
      · rintro rfl
        refine ⟨places, List.mem_cons_self, fun others last' hothers => ?_⟩
        rcases List.mem_cons.mp hothers with heq | hothers
        · exact Or.inl (Prod.mk.inj heq).1
        · exact Or.inr (hfirst _ hothers)
      · rintro ⟨least, hleast, hmin⟩
        rcases List.mem_cons.mp hleast with heq | hleast
        · exact (Prod.mk.inj heq).2.symm
        · have hbefore : Before places least := hfirst _ hleast
          rcases hmin _ _ List.mem_cons_self with rfl | hless
          · exact absurd hbefore hbefore.not_before
          · exact absurd hless hbefore.not_before

section

variable {d : Document} {root : Element} {key oid path : Runes}

theorem findAll_eq (h : d.root? = some root) (key oid : Runes) :
    d.findAll key oid = .ok (root.preorder.filter (carries key oid)) := by
  unfold findAll
  rw [currentElements_eq h]
  rfl

theorem WellFormed.follow_eq (h : d.WellFormed) (hroot : d.root? = some root)
    {layer : List Element} (hlayer : ∀ e ∈ layer, e ∈ root.preorder) (segments : List Runes) :
    follow layer segments = (spread (paths segments) layer).map Prod.snd := by
  have hcapable : ∀ e ∈ root.preorder, e.children ≠ [] → e.can .children = true := fun e he =>
    h.capable e (mem_everything_of_mem_elements (mem_elements.mpr ⟨root, root?_mem hroot, he⟩))
  rw [follow_eq_paths hcapable segments hlayer, Element.map_snd_spread]

/-- A selector leads to where the first of all paths ends. -/
theorem WellFormed.resolve_eq_paths (h : d.WellFormed) (hroot : d.root? = some root)
    (hblank : isBlankSelector (some path) = false) :
    d.resolve key oid (some path) =
      .ok ((spread (paths (Selector.segments path))
        (root.preorder.filter (carries key oid))).map Prod.snd).head? := by
  have hlayer : ∀ e ∈ root.preorder.filter (carries key oid), e ∈ root.preorder :=
    fun e he => (List.mem_filter.mp he).1
  rw [resolve_of_root hroot, if_neg (ne_true_of_eq_false hblank), Option.getD_some,
    h.follow_eq hroot hlayer]

theorem WellFormed.resolve_eq_some_iff (h : d.WellFormed) (hroot : d.root? = some root)
    (hblank : isBlankSelector (some path) = false) {e : Element} :
    d.resolve key oid (some path) = .ok (some e) ↔
      ∃ places, Reaches (root.preorder.filter (carries key oid)) (Selector.segments path) places e ∧
        ∀ others last, Reaches (root.preorder.filter (carries key oid)) (Selector.segments path)
          others last → others = places ∨ Before places others := by
  rw [h.resolve_eq_paths hroot hblank, Except.ok.injEq, head?_lasts_eq_some_iff
    (Element.spread_pairwise fun m _ => Element.paths_pairwise _ m)]
  simp only [Element.mem_spread_paths]

theorem WellFormed.resolve_eq_none_iff (h : d.WellFormed) (hroot : d.root? = some root)
    (hblank : isBlankSelector (some path) = false) :
    d.resolve key oid (some path) = .ok none ↔
      ∀ places last, ¬ Reaches (root.preorder.filter (carries key oid)) (Selector.segments path)
        places last := by
  rw [h.resolve_eq_paths hroot hblank, Except.ok.injEq, List.head?_eq_none_iff,
    List.map_eq_nil_iff, List.eq_nil_iff_forall_not_mem]
  simp only [Prod.forall, Element.mem_spread_paths]

end

/-- Whether something is found that a test accepts can be computed. -/
theorem exists_of_any_resolve {d : Document} {key oid : Runes} {selector : Option Runes}
    {p : Element → Bool} (h : (d.resolve key oid selector).toOption.join.any p = true) :
    ∃ e, d.resolve key oid selector = .ok (some e) ∧ p e = true := by
  obtain ⟨e, he, hp⟩ := (Option.any_eq_true _ _).mp h
  refine ⟨e, ?_, hp⟩
  cases hresult : d.resolve key oid selector with
  | error reason =>
      rw [hresult] at he
      cases he
  | ok found =>
      rw [hresult] at he
      exact congrArg _ (Option.some.inj (Option.join_eq_some_iff.mp he))

/-- Looking for an element, in a well-formed document. It fails if the page has no root. Otherwise,
without a selector the first element in document order is found that carries the identifier, if
there is one. With a selector the end of the first path is found that the selector describes, where
paths are compared place by place: first by the element that carries the identifier, then by the
children on the way. Nothing is found just if there is no such path. -/
theorem resolutions_follow_paths {d : Document} (h : d.WellFormed) (key oid : Runes)
    (selector : Option Runes) :
    (d.root? = none → d.resolve key oid selector = .error .noRoot) ∧
    ∀ root, d.root? = some root →
      (isBlankSelector selector = true →
        d.resolve key oid selector = .ok (root.preorder.find? (carries key oid))) ∧
      ∀ path, selector = some path → isBlankSelector selector = false →
        ∃ tagged, d.findAll key oid = .ok tagged ∧
          (∀ e, d.resolve key oid selector = .ok (some e) ↔
            ∃ places, Reaches tagged (Selector.segments path) places e ∧
              ∀ others last, Reaches tagged (Selector.segments path) others last →
                others = places ∨ Before places others) ∧
          (d.resolve key oid selector = .ok none ↔
            ∀ places last, ¬ Reaches tagged (Selector.segments path) places last) := by
  refine ⟨fun hnone => resolve_noRoot hnone key oid selector,
    fun root hroot => ⟨fun hblank => ?_, ?_⟩⟩
  · rw [resolve_of_root hroot, if_pos hblank, List.head?_filter]
  · rintro path rfl hblank
    exact ⟨_, findAll_eq hroot key oid, fun e => h.resolve_eq_some_iff hroot hblank,
      h.resolve_eq_none_iff hroot hblank⟩

/-- Of two cards the first has no price, so the price of the second is found. -/
theorem resolutions_follow_paths_price :
    let i : Interpreter := ⟨"data-oid", .int 0⟩
    let price : Node := ⟨⟨"span", by decide, by decide⟩, none, some "12", none, none, none⟩
    let card (inside : List Node) : Node :=
      ⟨⟨"article", by decide, by decide⟩, some "card", none, none, none,
        some [⟨⟨"DIV", by decide, by decide⟩, none, none, none, none, some inside⟩]⟩
    let d := (i.run .fresh [.ready (.buildTree .root (card [])),
      .ready (.buildTree .root (card [price]))]).1
    ∃ (tagged : List Element) (e : Element) (places : List Nat),
      d.findAll "data-oid" "card" = .ok tagged ∧
        d.resolve "data-oid" "card" (some "div > span") = .ok (some e) ∧ e.id = 6 ∧
          Reaches tagged (Selector.segments "div > span") places e ∧
            ∀ others last, Reaches tagged (Selector.segments "div > span") others last →
              others = places ∨ Before places others := by
  intro i price card d
  have hwell : d.WellFormed := (Reachable.executed .fresh i _).wellFormed.1
  have hroot : d.root?.isSome = true := by decide +kernel
  obtain ⟨root, hroot⟩ := Option.isSome_iff_exists.mp hroot
  have hfound : (d.resolve "data-oid" "card" (some "div > span")).toOption.join.any
      (·.id == 6) = true := by decide +kernel
  obtain ⟨e, hresolve, hid⟩ := exists_of_any_resolve hfound
  obtain ⟨-, hpaths⟩ := resolutions_follow_paths hwell "data-oid" "card" (some "div > span")
  obtain ⟨tagged, htagged, hends, -⟩ := (hpaths root hroot).2 _ rfl (by decide +kernel)
  obtain ⟨places, hreaches, hleast⟩ := (hends e).mp hresolve
  exact ⟨tagged, e, places, htagged, hresolve, beq_iff_eq.mp hid, hreaches, hleast⟩

/-- On a page without a root nothing can be looked for. -/
theorem resolution_fails_rootless :
    bare.WellFormed ∧ bare.resolve "data-oid" "title" none = .error .noRoot :=
  ⟨bare_wellFormed, resolve_noRoot rfl _ _ _⟩

end Document

end DesignBridge
