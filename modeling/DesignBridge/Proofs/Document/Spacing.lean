import DesignBridge.Proofs.Document.Calls
import DesignBridge.Proofs.Text.Pieces

/-! # The spacing of selectors

A selector counts for its segments alone. How its separators are spaced makes no difference: with
one blank on each side of every separator it has the same segments, and leads to the same element.
-/

namespace DesignBridge

namespace Selector

open Text

variable {s : Runes}

/-- A selector in canonical spacing: its segments, with one blank on each side of each separator. -/
def canonical (selector : Runes) : Runes :=
  Runes.join " > " (segments selector)

/-! ## Segments -/

theorem segments_eq (s : Runes) :
    segments s = ((splitAt (.char separator) s.list).map (trimBy (Rune.isIn isBlank))).map
      Runes.mk := by
  simp only [segments, Runes.split, List.map_map, Function.comp_def, Runes.trim]

theorem segments_ne_nil (s : Runes) : segments s ≠ [] := by
  rw [segments_eq]
  simpa using splitAt_ne_nil (.char separator) s.list

theorem segments_of_not_mem (h : .char separator ∉ s.list) : segments s = [s.trim] := by
  rw [segments_eq, splitAt_of_not_mem h]
  rfl

/-- The segments on both sides of a separator are found apart. -/
theorem segments_append (front back : Runes) :
    segments (front ++ separator.toString ++ back) = segments front ++ segments back := by
  have hlist : (front ++ separator.toString ++ back).list =
      front.list ++ .char separator :: back.list := by simp [separator]
  rw [segments_eq, hlist, splitAt_append_cons, List.map_append, List.map_append, ← segments_eq,
    ← segments_eq]

/-- A blank in front of a selector is nothing to it. -/
theorem segments_blank_append (s : Runes) : segments (" " ++ s) = segments s := by
  have hlist : (" " ++ s).list = .char ' ' :: s.list := by simp
  rw [segments_eq, hlist, map_trimBy_splitAt_cons (by decide) (by decide), ← segments_eq]

/-- With a separator there are two segments at least. -/
theorem segments_ne_singleton (h : .char separator ∈ s.list) (segment : Runes) :
    segments s ≠ [segment] := by
  obtain ⟨front, back, hlist⟩ := List.append_of_mem h
  have hs : s = ⟨front⟩ ++ separator.toString ++ ⟨back⟩ :=
    Runes.ext (by simp [hlist, separator])
  have hfront := List.length_pos_iff.mpr (segments_ne_nil ⟨front⟩)
  have hback := List.length_pos_iff.mpr (segments_ne_nil ⟨back⟩)
  rw [hs, segments_append]
  intro hsingle
  have hlength := congrArg List.length hsingle
  rw [List.length_append, List.length_singleton] at hlength
  omega

theorem not_mem_of_mem_segments {segment : Runes} (h : segment ∈ segments s) :
    .char separator ∉ segment.list := by
  rw [segments_eq, List.map_map] at h
  obtain ⟨piece, hpiece, rfl⟩ := List.mem_map.mp h
  exact fun hmem => not_mem_of_mem_splitAt hpiece ((trimBy_sublist _ piece).subset hmem)

theorem trim_of_mem_segments {segment : Runes} (h : segment ∈ segments s) :
    segment.trim = segment := by
  rw [segments_eq, List.map_map] at h
  obtain ⟨piece, _, rfl⟩ := List.mem_map.mp h
  rw [Function.comp_apply, Runes.trim, trimBy_trimBy]

/-- Texts without a separator are found again, without the blanks around them, when they are joined
in canonical spacing. -/
theorem segments_join {pieces : List Runes} (hne : pieces ≠ [])
    (h : ∀ piece ∈ pieces, .char separator ∉ piece.list) :
    segments (Runes.join " > " pieces) = pieces.map Runes.trim := by
  induction pieces with
  | nil => exact absurd rfl hne
  | cons piece rest ih =>
      have hpiece := h piece List.mem_cons_self
      cases rest with
      | nil => exact segments_of_not_mem hpiece
      | cons next rest =>
          have hspaced : segments (piece ++ " ") = [piece.trim] := by
            have hlist : (piece ++ " ").list = piece.list ++ [.char ' '] := by simp
            have hnot : .char separator ∉ (piece ++ " ").list := by
              rw [hlist, List.mem_append, not_or]
              exact ⟨hpiece, by decide⟩
            rw [segments_of_not_mem hnot, Runes.trim, hlist, trimBy_concat_of_class (by decide),
              Runes.trim]
          have hjoined : Runes.join " > " (piece :: next :: rest) =
              (piece ++ " ") ++ separator.toString ++ (" " ++ Runes.join " > " (next :: rest)) :=
            Runes.ext (by simp [Runes.join, separator])
          rw [hjoined, segments_append, hspaced, segments_blank_append,
            ih (List.cons_ne_nil _ _) fun piece hmem => h piece (List.mem_cons_of_mem _ hmem),
            List.singleton_append]
          rfl

theorem segments_canonical (s : Runes) : segments (canonical s) = segments s := by
  unfold canonical
  rw [segments_join (segments_ne_nil s) fun _ => not_mem_of_mem_segments]
  calc (segments s).map Runes.trim
      = (segments s).map id := List.map_congr_left fun _ => trim_of_mem_segments
    _ = segments s := List.map_id _

end Selector

namespace Document

open Selector (segments canonical)

/-- A selector says nothing just if its only segment is empty. -/
theorem isBlankSelector_iff (selector : Option Runes) :
    isBlankSelector selector = true ↔ segments (selector.getD "") = [↑""] := by
  cases selector with
  | none => exact iff_of_true rfl (by decide)
  | some s =>
      rw [isBlankSelector, Option.getD_some]
      by_cases hmem : .char Selector.separator ∈ s.list
      · refine iff_of_false (fun hblank => ?_) (Selector.segments_ne_singleton hmem _)
        have hall := Text.isEmpty_trim_iff.mp hblank _ hmem
        exact absurd hall (by decide)
      · rw [Selector.segments_of_not_mem hmem, List.singleton_inj, Runes.isEmpty_iff]

/-- What a selector leads to, told from its segments alone. -/
theorem resolve_eq_segments (d : Document) (key oid : Runes) (selector : Option Runes) :
    d.resolve key oid selector = (d.findAll key oid).map fun tagged =>
      if segments (selector.getD "") = [↑""] then tagged.head?
      else (follow tagged (segments (selector.getD ""))).head? := by
  unfold resolve
  congr 1
  funext tagged
  cases selector with
  | none => exact (if_pos ((isBlankSelector_iff none).mp rfl)).symm
  | some path => simp only [isBlankSelector_iff, Option.getD_some]

/-- Selectors with the same segments lead to the same element, in every document. The segments stay
the same when a selector is written in canonical spacing, whatever blanks and separators it had, so
that leads to the same element as well. -/
theorem resolved_by_segments (d : Document) (key oid : Runes) :
    (∀ selector other : Option Runes,
      segments (selector.getD "") = segments (other.getD "") →
        d.resolve key oid selector = d.resolve key oid other) ∧
    (∀ s, segments (canonical s) = segments s) ∧
    ∀ selector : Option Runes,
      d.resolve key oid (selector.map canonical) = d.resolve key oid selector := by
  have hsame : ∀ selector other : Option Runes,
      segments (selector.getD "") = segments (other.getD "") →
        d.resolve key oid selector = d.resolve key oid other := by
    intro selector other hsegments
    rw [resolve_eq_segments, resolve_eq_segments, hsegments]
  refine ⟨hsame, Selector.segments_canonical, fun selector => hsame _ _ ?_⟩
  cases selector with
  | none => rfl
  | some path => exact Selector.segments_canonical path

/-- Behind the last separator every child will do, whichever blanks stand around it: the price in
the box of a card is found. -/
theorem resolved_by_segments_wide :
    let i : Interpreter := ⟨"data-oid", .int 0⟩
    let price : Node := ⟨⟨"span", by decide, by decide⟩, none, some "12", none, none, none⟩
    let d := (i.run .fresh [.ready (.buildTree .root
      ⟨⟨"article", by decide, by decide⟩, some "card", none, none, none,
        some [⟨⟨"div", by decide, by decide⟩, none, none, none, none, some [price]⟩]⟩)]).1
    segments "\tdiv>\u3000" = segments "div\u2003> " ∧
      d.resolve "data-oid" "card" (some "\tdiv>\u3000") =
        d.resolve "data-oid" "card" (some "div\u2003> ") ∧
      (d.resolve "data-oid" "card" (some "\tdiv>\u3000")).toOption.join.map (·.id) = some 4 := by
  intro i price d
  have hsegments : segments "\tdiv>\u3000" = segments "div\u2003> " := by decide +kernel
  exact ⟨hsegments, (resolved_by_segments d "data-oid" "card").1 (some "\tdiv>\u3000")
    (some "div\u2003> ") hsegments, by decide +kernel⟩

end Document

end DesignBridge
