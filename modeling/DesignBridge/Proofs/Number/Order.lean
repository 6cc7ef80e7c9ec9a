import DesignBridge.Proofs.Number.Parts

/-! # The order of doubles

Doubles are compared by exponent first and by mantissa second. Since the mantissa of a double leads
with a one wherever it can, that is the order of their values.
-/

namespace DesignBridge

open Float.Model Float.Model.UnpackedFloat

/-! ## Sizes -/

/-- A mantissa of at most 53 bits weighs less than one of 53 bits with a larger exponent. -/
theorem size_lt {m n : Nat} {d e : Int} (hm : m < 2 ^ 53) (hn : 2 ^ 52 ≤ n) (h : d < e) :
    (m : ℚ) * 2 ^ d < n * 2 ^ e := by
  calc (m : ℚ) * 2 ^ d < 2 ^ (53 : ℤ) * 2 ^ d := by
        gcongr
        exact_mod_cast hm
    _ = 2 ^ (53 + d) := (zpow_add₀ (by norm_num) _ _).symm
    _ ≤ 2 ^ (52 + e) := zpow_le_zpow_right₀ (by norm_num) (by omega)
    _ = 2 ^ (52 : ℤ) * 2 ^ e := zpow_add₀ (by norm_num) _ _
    _ ≤ n * 2 ^ e := by
        gcongr
        exact_mod_cast hn

namespace IsStored

variable {m n : Nat} {d e : Int}

/-- A double is less than every other with a larger exponent. -/
theorem size_lt_of_lt (hm : IsStored m d) (hn : IsStored n e) (h : d < e) :
    (m : ℚ) * 2 ^ d < n * 2 ^ e :=
  size_lt hm.mantissa_lt (hn.leads.resolve_right (by have := hm.le_exponent; omega)) h

theorem compare_size (hm : IsStored m d) (hn : IsStored n e) :
    (compare d e).then (compare m n) = compare ((m : ℚ) * 2 ^ d) (n * 2 ^ e) := by
  rcases lt_trichotomy d e with h | rfl | h
  · rw [compare_lt_iff_lt.mpr h, compare_lt_iff_lt.mpr (hm.size_lt_of_lt hn h)]
    rfl
  · have hmono : StrictMono fun k : ℕ => (k : ℚ) * 2 ^ d := fun a b hab => by
      dsimp only
      gcongr
    rw [compare_eq_iff_eq.mpr rfl, Ordering.then, ← cmp_eq_compare, ← cmp_eq_compare]
    exact (hmono.cmp_map_eq m n).symm
  · rw [compare_gt_iff_gt.mpr h, compare_gt_iff_gt.mpr (hn.size_lt_of_lt hm h)]
    rfl

end IsStored

namespace Binary

theorem toRat_eq (b : Binary) :
    b.toRat = (if b.negative then -1 else 1) * (b.mantissa * 2 ^ b.exponent) := by
  obtain ⟨negative, m, e⟩ := b
  have hsize : (if e < 0 then mkRat m (1 <<< (-e).toNat) else ((m <<< e.toNat : Nat) : ℚ)) =
      m * 2 ^ e := by
    cases e with
    | ofNat k => simp [Nat.shiftLeft_eq]
    | negSucc k =>
        rw [if_pos (Int.negSucc_lt_zero k), Rat.mkRat_eq_div]
        simp [Nat.shiftLeft_eq, div_eq_mul_inv]
  unfold toRat
  dsimp only
  rw [hsize]
  cases negative <;> simp

theorem toRat_zero (negative : Bool) (e : Int) : (Binary.mk negative 0 e).toRat = 0 := by
  simp [toRat_eq]

theorem toRat_negative (m : Nat) (e : Int) : (Binary.mk true m e).toRat = -(m * 2 ^ e) := by
  simp [toRat_eq]

theorem toRat_positive (m : Nat) (e : Int) : (Binary.mk false m e).toRat = m * 2 ^ e := by
  simp [toRat_eq]

theorem compare_neg (p q : ℚ) : compare (-p) (-q) = (compare p q).swap := by
  rw [← cmp_eq_compare, ← cmp_eq_compare, cmp_swap]
  have hanti : StrictAnti fun r : ℚ => -r := fun _ _ h => neg_lt_neg h
  exact hanti.cmp_map_eq p q

/-- The values of two unpacked doubles compare as these do. -/
theorem compare_ofUnpacked? {u v : UnpackedFloat} {a b : Binary} (ha : ofUnpacked? u = some a)
    (hb : ofUnpacked? v = some b) (hsa : IsStored a.mantissa a.exponent)
    (hsb : IsStored b.mantissa b.exponent) : u.compare v = some (compare a.toRat b.toRat) := by
  have hpos : ∀ {m : Nat} {e : Int}, 0 < m → (0 : ℚ) < m * 2 ^ e := by
    intro m e hm
    positivity
  cases u with
  | notANumber | infinity => cases ha
  | zero s =>
      obtain rfl := Option.some.inj ha
      cases v with
      | notANumber | infinity => cases hb
      | zero t =>
          obtain rfl := Option.some.inj hb
          rw [toRat_zero, toRat_zero]
          rfl
      | finite t n e hn =>
          obtain rfl := Option.some.inj hb
          rw [toRat_zero]
          cases t with
          | negative =>
              rw [isNegative, toRat_negative, compare_gt_iff_gt.mpr (neg_neg_of_pos (hpos hn))]
              rfl
          | positive =>
              rw [isNegative, toRat_positive, compare_lt_iff_lt.mpr (hpos hn)]
              rfl
  | finite s m d hm =>
      obtain rfl := Option.some.inj ha
      cases v with
      | notANumber | infinity => cases hb
      | zero t =>
          obtain rfl := Option.some.inj hb
          rw [toRat_zero]
          cases s with
          | negative =>
              rw [isNegative, toRat_negative, compare_lt_iff_lt.mpr (neg_neg_of_pos (hpos hm))]
              rfl
          | positive =>
              rw [isNegative, toRat_positive, compare_gt_iff_gt.mpr (hpos hm)]
              rfl
      | finite t n e hn =>
          obtain rfl := Option.some.inj hb
          have hsizes := hsa.compare_size hsb
          cases s <;> cases t
          · rw [isNegative, toRat_negative, toRat_negative, compare_neg, ← hsizes]
            rfl
          · rw [isNegative, isNegative, toRat_negative, toRat_positive,
              compare_lt_iff_lt.mpr ((neg_neg_of_pos (hpos hm)).trans (hpos hn))]
            rfl
          · rw [isNegative, isNegative, toRat_negative, toRat_positive,
              compare_gt_iff_gt.mpr ((neg_neg_of_pos (hpos hn)).trans (hpos hm))]
            rfl
          · rw [isNegative, toRat_positive, toRat_positive, ← hsizes]
            rfl

section

variable {x y : Float} {a b : Binary}

/-- Doubles that have parts compare as their values do. -/
theorem compare_eq (ha : ofFloat? x = some a) (hb : ofFloat? y = some b) :
    x.toModel.unpack.compare y.toModel.unpack = some (compare a.toRat b.toRat) := by
  have hsa := isStored_of_ofFloat? ha
  have hsb := isStored_of_ofFloat? hb
  rw [ofFloat?_eq] at ha hb
  exact compare_ofUnpacked? ha hb hsa hsb

theorem lt_iff_compare : x < y ↔ x.toModel.unpack.compare y.toModel.unpack = some .lt := by
  have hlt : x < y ↔ (x.toModel.unpack.compare y.toModel.unpack == some .lt) = true :=
    decide_eq_true_iff
  rw [hlt, beq_iff_eq]

theorem lt_iff (ha : ofFloat? x = some a) (hb : ofFloat? y = some b) :
    x < y ↔ a.toRat < b.toRat := by
  rw [lt_iff_compare, compare_eq ha hb, Option.some.injEq, compare_lt_iff_lt]

theorem lt_of_infinity (ha : ofFloat? x = some a) (hy : y.toModel.unpack = .infinity .positive) :
    x < y := by
  rw [ofFloat?_eq] at ha
  rw [lt_iff_compare, hy]
  cases hx : x.toModel.unpack with
  | notANumber | infinity =>
      rw [hx] at ha
      cases ha
  | zero | finite => simp [UnpackedFloat.compare]

end

end Binary

/-- A double is more than zero unless it is at most zero, or not a number. -/
theorem not_le_zero_iff_pos_or_isNaN (x : Float) : ¬ x ≤ 0 ↔ 0 < x ∨ x.isNaN = true := by
  have hle : x ≤ 0 ↔ (x.toModel.unpack.compare (.zero .positive)).any (·.isLE) = true :=
    decide_eq_true_iff
  have hlt : 0 < x ↔ UnpackedFloat.compare (.zero .positive) x.toModel.unpack = some .lt :=
    Binary.lt_iff_compare
  have hnan : x.isNaN = x.toModel.unpack.isNaN := rfl
  rw [hle, hlt, hnan]
  cases x.toModel.unpack with
  | notANumber => decide
  | infinity s | zero s => cases s <;> decide
  | finite s m e hm => cases s <;> simp [UnpackedFloat.compare, UnpackedFloat.isNaN]

end DesignBridge
