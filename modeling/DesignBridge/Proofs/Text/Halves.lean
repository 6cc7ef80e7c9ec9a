import DesignBridge.Text.Rune

/-! # Halves side by side

Two halves of one pair that stand side by side are the character they make as soon as a text is
written and read again. A text is settled if it has none; a text of characters is, and so is every
text that was joined once.
-/

namespace DesignBridge

namespace Rune

/-- A half at the front stays there, unless it becomes a character with the one behind it. -/
theorem joined_half (n : Fin 0x800) (rs : List Rune) :
    (∃ c more, joined (half n :: rs) = char c :: more) ∨
      ∃ more, joined (half n :: rs) = half n :: more := by
  cases rs with
  | nil => exact .inr ⟨[], rfl⟩
  | cons r rest =>
      cases r with
      | char c => exact .inr ⟨_, rfl⟩
      | half m =>
          rw [joined]
          cases paired? n m with
          | some c => exact .inl ⟨c, _, rfl⟩
          | none => exact .inr ⟨_, rfl⟩

theorem joined_char (c : Char) (rs : List Rune) : joined (char c :: rs) = char c :: joined rs := by
  rw [joined]
  exact fun _ _ _ h => nomatch h

/-- A half stays in front of a character. -/
theorem joined_half_char (n : Fin 0x800) (c : Char) (rs : List Rune) :
    joined (half n :: char c :: rs) = half n :: joined (char c :: rs) := by
  rw [joined]
  exact fun _ _ _ _ h => nomatch h

theorem joined_half_half {first second : Fin 0x800} (h : paired? first second = none)
    (rs : List Rune) :
    joined (half first :: half second :: rs) = half first :: joined (half second :: rs) := by
  rw [joined, h]

theorem joined_joined (rs : List Rune) : joined (joined rs) = joined rs := by
  fun_induction joined rs with
  | case1 first second rest c hpair ih => rw [joined_char, ih]
  | case2 first second rest hpair ih =>
      rcases joined_half second rest with ⟨c, more, hjoined⟩ | ⟨more, hjoined⟩
      · rw [hjoined] at ih ⊢
        rw [joined_half_char, ih]
      · rw [hjoined] at ih ⊢
        rw [joined_half_half hpair, ih]
  | case3 r rest hother ih =>
      cases r with
      | char c => rw [joined_char, ih]
      | half n =>
          cases rest with
          | nil => rfl
          | cons s more =>
              cases s with
              | char c =>
                  rw [joined_char] at ih ⊢
                  rw [joined_half_char, ih]
              | half m => exact (hother n m more rfl rfl).elim
  | case4 => rfl

theorem joined_chars (cs : List Char) : joined (cs.map char) = cs.map char := by
  induction cs with
  | nil => rfl
  | cons c cs ih => rw [List.map_cons, joined_char, ih]

/-- No pair makes a character of the basic plane. -/
theorem le_toNat_of_paired? {first second : Fin 0x800} {c : Char}
    (h : paired? first second = some c) : 0x10000 ≤ c.toNat := by
  unfold paired? at h
  split at h
  next hhalves =>
    obtain rfl := Option.some.inj h
    have hvalid : Nat.isValidChar (0x10000 + first * 0x400 + (second - 0x400)) := .inr (by omega)
    have hvalue : (Char.ofNat (0x10000 + first * 0x400 + (second - 0x400))).toNat =
        0x10000 + first * 0x400 + (second - 0x400) := by
      rw [Char.ofNat, dif_pos hvalid]
      rfl
    omega
  next => cases h

/-- What is joined to characters of the basic plane is these characters. -/
theorem joined_eq_chars_iff {cs : List Char} (hcs : ∀ c ∈ cs, c.toNat < 0x10000) {rs : List Rune} :
    joined rs = cs.map char ↔ rs = cs.map char := by
  refine ⟨fun h => ?_, fun h => h ▸ joined_chars cs⟩
  fun_induction joined rs generalizing cs with
  | case1 first second rest c hpair ih =>
      obtain ⟨d, more, rfl, hd, _⟩ := List.map_eq_cons_iff.mp h.symm
      obtain rfl := char.inj hd
      exact absurd (hcs d (List.mem_cons_self ..)) (Nat.not_lt.mpr (le_toNat_of_paired? hpair))
  | case2 first second rest hpair ih =>
      obtain ⟨d, more, _, hd, _⟩ := List.map_eq_cons_iff.mp h.symm
      cases hd
  | case3 r rest hother ih =>
      obtain ⟨d, more, rfl, rfl, hmore⟩ := List.map_eq_cons_iff.mp h.symm
      rw [ih (fun c hc => hcs c (List.mem_cons_of_mem _ hc)) hmore.symm, List.map_cons]
  | case4 => exact h

end Rune

namespace Runes

/-- Whether no two halves of one pair stand side by side. -/
def IsSettled (r : Runes) : Prop :=
  r.joined = r

instance (r : Runes) : Decidable r.IsSettled :=
  inferInstanceAs (Decidable (_ = _))

theorem settled_joined (r : Runes) : r.joined.IsSettled :=
  ext (Rune.joined_joined r.list)

theorem settled_ofString (s : String) : (ofString s).IsSettled :=
  ext (Rune.joined_chars s.toList)

/-- Whether a string has characters of the basic plane only. -/
def isBasic (s : String) : Bool :=
  s.toList.all fun c => c.toNat < 0x10000

/-- A string of the basic plane comes from itself alone. -/
theorem joined_eq_iff {s : String} (hs : isBasic s = true) {r : Runes} :
    r.joined = ofString s ↔ r = ofString s := by
  have hchars : ∀ c ∈ s.toList, c.toNat < 0x10000 := fun c hc => by
    simpa using List.all_eq_true.mp hs c hc
  refine ⟨fun h => ?_, fun h => h ▸ settled_ofString s⟩
  exact ext ((Rune.joined_eq_chars_iff hchars).mp (congrArg list h))

end Runes

end DesignBridge
