import DesignBridge.Text.Blank
import Mathlib.Data.List.DropRight

/-! # Texts cut and joined

Cutting a text at a mark and joining the pieces with it undo each other, as long as no piece holds
the mark. Words that are joined with blanks are found again. What is trimmed once stays as it is,
and blanks around a text make no difference to what is left of it.
-/

namespace DesignBridge.Text

/-! ## Cutting at a mark -/

section

variable {α : Type} [DecidableEq α] {sep : α}

theorem splitAt_eq_splitOn (sep : α) (cs : List α) : splitAt sep cs = cs.splitOn sep := by
  induction cs with
  | nil => rw [splitAt, List.splitOn_nil]
  | cons c rest ih =>
      rw [splitAt, List.splitOn_cons_eq_if_modifyHead, ← ih]
      by_cases hc : c = sep
      · rw [if_pos hc, if_pos (beq_iff_eq.mpr hc)]
      · rw [if_neg hc, if_neg (by simpa using hc)]
        cases hrest : splitAt sep rest with
        | nil => exact absurd hrest (splitAt_ne_nil sep rest)
        | cons piece pieces => rfl

theorem splitAt_of_not_mem {cs : List α} (h : sep ∉ cs) : splitAt sep cs = [cs] := by
  rw [splitAt_eq_splitOn, List.splitOn_eq_singleton h]

theorem splitAt_append_cons (sep : α) (front back : List α) :
    splitAt sep (front ++ sep :: back) = splitAt sep front ++ splitAt sep back := by
  simp only [splitAt_eq_splitOn, List.splitOn_append_cons_self]

/-- Pieces without the mark are found again. -/
theorem splitAt_intercalate {pieces : List (List α)} (h : ∀ piece ∈ pieces, sep ∉ piece)
    (hne : pieces ≠ []) : splitAt sep ([sep].intercalate pieces) = pieces := by
  rw [splitAt_eq_splitOn, List.splitOn_intercalate sep h hne]

theorem not_mem_of_mem_splitAt {cs piece : List α} (h : piece ∈ splitAt sep cs) :
    sep ∉ piece := by
  induction cs generalizing piece with
  | nil =>
      obtain rfl := List.mem_singleton.mp h
      exact List.not_mem_nil
  | cons c rest ih =>
      unfold splitAt at h
      split at h
      next =>
        obtain rfl | h := List.mem_cons.mp h
        · exact List.not_mem_nil
        · exact ih h
      next hc =>
        split at h
        next =>
          obtain rfl := List.mem_singleton.mp h
          simpa using Ne.symm hc
        next first others heq =>
          rw [heq] at ih
          obtain rfl | h := List.mem_cons.mp h
          · simpa [Ne.symm hc] using ih List.mem_cons_self
          · exact ih (List.mem_cons_of_mem _ h)

/-- A piece is no longer than the text. -/
theorem length_le_of_mem_splitAt {cs piece : List α} (h : piece ∈ splitAt sep cs) :
    piece.length ≤ cs.length := by
  induction cs generalizing piece with
  | nil =>
      obtain rfl := List.mem_singleton.mp h
      exact Nat.le_refl _
  | cons c rest ih =>
      unfold splitAt at h
      split at h
      next =>
        obtain rfl | h := List.mem_cons.mp h
        · exact Nat.zero_le _
        · exact Nat.le_succ_of_le (ih h)
      next =>
        split at h
        next =>
          obtain rfl := List.mem_singleton.mp h
          simp
        next first others heq =>
          rw [heq] at ih
          obtain rfl | h := List.mem_cons.mp h
          · exact Nat.succ_le_succ (ih List.mem_cons_self)
          · exact Nat.le_succ_of_le (ih (List.mem_cons_of_mem _ h))

/-- Where the mark occurs, a piece is shorter than the text. -/
theorem length_lt_of_mem_splitAt {cs piece : List α} (hsep : sep ∈ cs)
    (h : piece ∈ splitAt sep cs) : piece.length < cs.length := by
  obtain ⟨front, back, rfl⟩ := List.append_of_mem hsep
  rw [splitAt_append_cons] at h
  rw [List.length_append, List.length_cons]
  obtain h | h := List.mem_append.mp h
  · have hfront := length_le_of_mem_splitAt h
    omega
  · have hback := length_le_of_mem_splitAt h
    omega

/-- Where characters are written one by one, and only the mark as itself with it, the pieces are
written one by one. -/
theorem splitAt_flatMap {f : α → List α} (hsep : f sep = [sep])
    (hother : ∀ c, c ≠ sep → sep ∉ f c) (cs : List α) :
    splitAt sep (cs.flatMap f) = (splitAt sep cs).map fun piece => piece.flatMap f := by
  have hpiece : ∀ piece ∈ splitAt sep cs, sep ∉ piece.flatMap f := by
    intro piece hmem hin
    obtain ⟨c, hc, hin⟩ := List.mem_flatMap.mp hin
    exact hother c (fun heq => not_mem_of_mem_splitAt hmem (heq ▸ hc)) hin
  have hjoined : ∀ pieces : List (List α), ([sep].intercalate pieces).flatMap f =
      [sep].intercalate (pieces.map fun piece => piece.flatMap f) := by
    intro pieces
    induction pieces with
    | nil => rfl
    | cons piece rest ih =>
        cases rest with
        | nil => simp [List.intercalate_singleton]
        | cons next rest =>
            rw [List.intercalate_cons_cons, List.flatMap_append, List.flatMap_append, ih]
            simp [List.intercalate_cons_cons, hsep]
  calc splitAt sep (cs.flatMap f)
      = splitAt sep (([sep].intercalate (splitAt sep cs)).flatMap f) := by
        rw [splitAt_eq_splitOn sep cs, List.intercalate_splitOn]
    _ = (splitAt sep cs).map fun piece => piece.flatMap f := by
        rw [hjoined, splitAt_intercalate (by simpa using hpiece)
          (by simpa using splitAt_ne_nil sep cs)]

end

/-! ## Trimming -/

section

variable {α : Type} {p : α → Bool} {cs : List α}

theorem trimBy_eq_rdropWhile (p : α → Bool) (cs : List α) :
    trimBy p cs = (cs.dropWhile p).rdropWhile p := rfl

theorem trimBy_sublist (p : α → Bool) (cs : List α) : (trimBy p cs).Sublist cs :=
  (List.rdropWhile_prefix p _).sublist.trans (List.dropWhile_sublist p)

/-- Nothing is left just of texts all in the class. -/
theorem trimBy_eq_nil_iff : trimBy p cs = [] ↔ ∀ c ∈ cs, p c = true := by
  rw [trimBy_eq_rdropWhile, List.rdropWhile_eq_nil_iff, ← List.dropWhile_eq_nil_iff,
    List.dropWhile_idempotent, List.dropWhile_eq_nil_iff]

/-- What is trimmed once stays as it is. -/
theorem trimBy_trimBy (p : α → Bool) (cs : List α) :
    trimBy p (trimBy p cs) = trimBy p cs := by
  have hinitial : trimBy p cs <+: cs.dropWhile p := List.rdropWhile_prefix p _
  have hfront : (trimBy p cs).dropWhile p = trimBy p cs := by
    refine List.dropWhile_eq_self_iff.mpr fun hpos => ?_
    have hlonger := Nat.lt_of_lt_of_le hpos hinitial.length_le
    rw [hinitial.getElem hpos]
    exact List.dropWhile_eq_self_iff.mp (List.dropWhile_idempotent p cs) hlonger
  calc trimBy p (trimBy p cs)
      = (trimBy p cs).rdropWhile p := by rw [trimBy_eq_rdropWhile, hfront]
    _ = trimBy p cs := List.rdropWhile_idempotent p _

theorem trimBy_cons_of_class {c : α} (hc : p c = true) (cs : List α) :
    trimBy p (c :: cs) = trimBy p cs := by
  unfold trimBy
  rw [List.dropWhile_cons_of_pos hc]

theorem trimBy_concat_of_class {c : α} (hc : p c = true) (cs : List α) :
    trimBy p (cs ++ [c]) = trimBy p cs := by
  rw [trimBy_eq_rdropWhile, trimBy_eq_rdropWhile, List.dropWhile_append]
  split
  next hempty =>
    rw [List.isEmpty_iff.mp hempty, List.dropWhile_cons_of_pos hc, List.dropWhile_nil]
  next => exact List.rdropWhile_concat_pos p _ c hc

theorem isEmpty_trim_iff {r : Runes} :
    r.trim.isEmpty = true ↔ ∀ c ∈ r.list, c.isIn isBlank = true := by
  rw [Runes.isEmpty, List.isEmpty_iff, Runes.trim, trimBy_eq_nil_iff]

/-- A character of the class in front of a text is gone from the first piece when it is trimmed. -/
theorem map_trimBy_splitAt_cons [DecidableEq α] {sep c : α} (hsep : c ≠ sep) (hc : p c = true)
    (cs : List α) :
    (splitAt sep (c :: cs)).map (trimBy p) = (splitAt sep cs).map (trimBy p) := by
  rw [splitAt, if_neg hsep]
  cases hcs : splitAt sep cs with
  | nil => exact absurd hcs (splitAt_ne_nil sep cs)
  | cons piece pieces => rw [List.map_cons, List.map_cons, trimBy_cons_of_class hc]

end

/-! ## Words -/

section

variable {p : Char → Bool} {run : List Char}

theorem runsOutside_cons_of_class {mark : Char} (h : p mark = true) (rest : List Char) :
    runsOutside p (mark :: rest) = runsOutside p rest := by
  rw [runsOutside.eq_def]
  exact if_pos h

/-- A character in front of a run goes on with it. -/
theorem runsOutside_cons_of_outside {c d : Char} {rest : List Char} (hc : p c = false)
    (hd : p d = false) {runs : List (List Char)} (h : runsOutside p (d :: rest) = run :: runs) :
    runsOutside p (c :: d :: rest) = (c :: run) :: runs := by
  rw [runsOutside.eq_def]
  simp only [hc, hd, h, Bool.false_eq_true, if_false]

theorem runsOutside_of_outside (hne : run ≠ []) (h : ∀ c ∈ run, p c = false) :
    runsOutside p run = [run] := by
  induction run with
  | nil => exact absurd rfl hne
  | cons c rest ih =>
      have hc := h c List.mem_cons_self
      cases rest with
      | nil => simp [runsOutside, hc]
      | cons d rest =>
          have hd := h d (List.mem_cons_of_mem _ List.mem_cons_self)
          exact runsOutside_cons_of_outside hc hd
            (ih (List.cons_ne_nil _ _) fun e he => h e (List.mem_cons_of_mem _ he))

/-- A run ends where the first character of the class comes. -/
theorem runsOutside_append_cons (hne : run ≠ []) (h : ∀ c ∈ run, p c = false) {mark : Char}
    (hmark : p mark = true) (rest : List Char) :
    runsOutside p (run ++ mark :: rest) = run :: runsOutside p rest := by
  induction run with
  | nil => exact absurd rfl hne
  | cons c more ih =>
      have hc := h c List.mem_cons_self
      cases more with
      | nil =>
          rw [List.singleton_append, runsOutside.eq_def]
          simp only [hc, hmark, Bool.false_eq_true, if_false, if_true]
          rw [runsOutside_cons_of_class hmark]
      | cons d more =>
          have hd := h d (List.mem_cons_of_mem _ List.mem_cons_self)
          exact runsOutside_cons_of_outside hc hd
            (ih (List.cons_ne_nil _ _) fun e he => h e (List.mem_cons_of_mem _ he))

theorem outside_of_mem_runsOutside {cs : List Char} (h : run ∈ runsOutside p cs) :
    run ≠ [] ∧ ∀ c ∈ run, p c = false := by
  induction cs generalizing run with
  | nil => cases h
  | cons c rest ih =>
      have hsingle : p c = false → [c] ≠ [] ∧ ∀ d ∈ [c], p d = false := fun hc =>
        ⟨List.cons_ne_nil _ _, fun d hd => List.mem_singleton.mp hd ▸ hc⟩
      unfold runsOutside at h
      split at h
      next => exact ih h
      next hc =>
        have hc : p c = false := by simpa using hc
        split at h
        next => exact List.mem_singleton.mp h ▸ hsingle hc
        next =>
          split at h
          next =>
            obtain rfl | h := List.mem_cons.mp h
            · exact hsingle hc
            · exact ih h
          next =>
            split at h
            next => exact List.mem_singleton.mp h ▸ hsingle hc
            next first others heq =>
              rw [heq] at ih
              obtain rfl | h := List.mem_cons.mp h
              · refine ⟨List.cons_ne_nil _ _, fun d hd => ?_⟩
                obtain rfl | hd := List.mem_cons.mp hd
                · exact hc
                · exact (ih List.mem_cons_self).2 d hd
              · exact ih (List.mem_cons_of_mem _ h)

end

/-- Whether a text is one word. -/
def IsWord (s : String) : Prop :=
  s ≠ "" ∧ ∀ c ∈ s.toList, isBlank c = false

theorem isWord_of_mem_words {s word : String} (h : word ∈ words s) : IsWord word := by
  obtain ⟨run, hrun, rfl⟩ := List.mem_map.mp h
  obtain ⟨hne, houtside⟩ := outside_of_mem_runsOutside hrun
  exact ⟨by simpa using hne, by simpa using houtside⟩

/-- Words are found again when they are joined with blanks. -/
theorem words_joinWith {texts : List String} (h : ∀ s ∈ texts, IsWord s) :
    words (joinWith " " texts) = texts := by
  unfold words
  induction texts with
  | nil => rfl
  | cons s rest ih =>
      obtain ⟨hne, hword⟩ := h s List.mem_cons_self
      have hne : s.toList ≠ [] := by simpa using hne
      cases rest with
      | nil =>
          rw [joinWith, runsOutside_of_outside hne hword, List.map_singleton,
            String.ofList_toList]
      | cons next rest =>
          have hjoined : (joinWith " " (s :: next :: rest)).toList =
              s.toList ++ ' ' :: (joinWith " " (next :: rest)).toList := by simp [joinWith]
          rw [hjoined, runsOutside_append_cons hne hword (by decide), List.map_cons,
            String.ofList_toList, ih fun t ht => h t (List.mem_cons_of_mem _ ht)]

end DesignBridge.Text
