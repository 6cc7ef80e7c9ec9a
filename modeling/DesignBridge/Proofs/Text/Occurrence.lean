import DesignBridge.Text.Blank

/-! # Texts inside texts

Where a text stands that another one begins with or holds. A text without a mark never stands across
the mark, and neither does one that ends in the mark and is without it otherwise: it stands in front
of the mark and ends there, or it stands to one side of it.
-/

namespace DesignBridge.Text

theorem startsWith_iff {s start : String} :
    startsWith s start = true ↔ start.toList <+: s.toList :=
  List.isPrefixOf_iff_prefix

theorem occursIn_iff {needle cs : List Char} : occursIn needle cs = true ↔ needle <:+: cs := by
  induction cs with
  | nil => rw [occursIn, List.isEmpty_iff, List.infix_nil]
  | cons c rest ih =>
      rw [occursIn, Bool.or_eq_true, List.isPrefixOf_iff_prefix, ih, List.infix_cons_iff]

theorem contains_iff {s needle : String} :
    contains s needle = true ↔ needle.toList <:+: s.toList :=
  occursIn_iff

section

variable {needle front back : List Char} {mark : Char}

/-- What a text begins with does not go on in the rest, if the rest begins with none of its
characters. -/
theorem prefix_append_iff (h : ∀ c ∈ back.head?, c ∉ needle) :
    needle <+: front ++ back ↔ needle <+: front := by
  refine ⟨fun hprefix => ?_, fun hprefix => hprefix.trans (List.prefix_append front back)⟩
  induction front generalizing needle with
  | nil =>
      cases back with
      | nil => exact hprefix
      | cons c rest =>
          obtain hnil | ⟨_, rfl, _⟩ := List.prefix_cons_iff.mp hprefix
          · exact hnil ▸ List.nil_prefix
          · exact absurd List.mem_cons_self (h c rfl)
  | cons c rest ih =>
      obtain hnil | ⟨more, rfl, hmore⟩ := List.prefix_cons_iff.mp hprefix
      · exact hnil ▸ List.nil_prefix
      · have hrest := ih (fun d hd hmem => h d hd (List.mem_cons_of_mem _ hmem)) hmore
        exact List.cons_prefix_cons.mpr ⟨rfl, hrest⟩

theorem infix_append_cons_iff (h : mark ∉ needle) :
    needle <:+: front ++ mark :: back ↔ needle <:+: front ∨ needle <:+: back := by
  induction front with
  | nil =>
      rw [List.nil_append, List.infix_cons_iff, List.infix_nil, List.prefix_cons_iff]
      refine or_congr_left ⟨?_, Or.inl⟩
      rintro (hnil | ⟨_, rfl, _⟩)
      · exact hnil
      · exact absurd List.mem_cons_self h
  | cons c rest ih =>
      have hprefix : needle <+: (c :: rest) ++ mark :: back ↔ needle <+: c :: rest :=
        prefix_append_iff (by simpa using h)
      rw [List.cons_append, List.infix_cons_iff, ih, ← List.cons_append, hprefix, ← or_assoc,
        ← List.infix_cons_iff]

/-- Where the first characters differ a text can only stand behind. -/
theorem infix_cons_iff_of_ne {c d : Char} (h : c ≠ d) :
    c :: needle <:+: d :: back ↔ c :: needle <:+: back := by
  rw [List.infix_cons_iff, List.cons_prefix_cons, or_iff_right fun hprefix => h hprefix.1]

/-- What ends in the mark, and is without it otherwise, ends at the mark or before it. -/
theorem concat_prefix_append_cons_iff (h : mark ∉ needle) :
    needle ++ [mark] <+: front ++ mark :: back ↔
      needle = front ∨ needle ++ [mark] <+: front := by
  induction front generalizing needle with
  | nil =>
      cases needle with
      | nil => simp
      | cons c more =>
          have hne : c ≠ mark := fun heq => h (heq ▸ List.mem_cons_self)
          simp [hne]
  | cons d rest ih =>
      cases needle with
      | nil => simp
      | cons c more =>
          have hmore : mark ∉ more := fun hmem => h (List.mem_cons_of_mem _ hmem)
          simp only [List.cons_append, List.cons_prefix_cons, ih hmore, List.cons.injEq]
          rw [and_or_left]

theorem concat_infix_append_cons_iff (h : mark ∉ needle) :
    needle ++ [mark] <:+: front ++ mark :: back ↔
      (needle <:+ front ∨ needle ++ [mark] <:+: front) ∨ needle ++ [mark] <:+: back := by
  induction front with
  | nil =>
      have hprefix : needle ++ [mark] <+: [] ++ mark :: back ↔ _ :=
        concat_prefix_append_cons_iff h
      rw [List.nil_append] at hprefix ⊢
      rw [List.infix_cons_iff, hprefix]
      simp
  | cons c rest ih =>
      have hprefix : needle ++ [mark] <+: (c :: rest) ++ mark :: back ↔ _ :=
        concat_prefix_append_cons_iff h
      have hinfix : needle ++ [mark] <:+: c :: rest ↔ _ := List.infix_cons_iff
      rw [List.cons_append] at hprefix ⊢
      rw [List.infix_cons_iff, hprefix, ih, List.suffix_cons_iff, hinfix]
      simp only [or_assoc, or_left_comm]

end

end DesignBridge.Text
