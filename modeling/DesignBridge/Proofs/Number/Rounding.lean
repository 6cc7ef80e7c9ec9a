import DesignBridge.Proofs.Number.Order

/-! # Rounding

A product of doubles is rounded to a double: its mantissa is cut to 53 bits, fewer at the smallest
exponent, and possibly incremented. No double that is at most the product is more than what it is
rounded to. The same goes for natural numbers, which are scaled up first.
-/

namespace DesignBridge

open Float.Model Float.Model.UnpackedFloat

/-- Whether a double, not negative, is no less than any that is at most a number. -/
def Covers (x : Float) (q : ℚ) : Prop :=
  x.toModel.unpack = .infinity .positive ∨ ∃ r, Binary.ofFloat? x = some r ∧
    ∀ m e, IsStored m e → (m : ℚ) * 2 ^ e ≤ q → (m : ℚ) * 2 ^ e ≤ r.toRat

/-! ## Cutting a mantissa -/

theorem mantissa_shiftRight (em : ExtendedMantissa) (k : Nat) :
    (em >>> k).mantissa = em.mantissa / 2 ^ k := by
  induction k with
  | zero => exact (Nat.div_one _).symm
  | succ k ih =>
      have hstep : (em >>> (k + 1)).mantissa = (em >>> k).mantissa / 2 := rfl
      rw [hstep, ih, Nat.div_div_eq_div_mul, pow_succ]

theorem roundedMantissa_bounds (em : ExtendedMantissa) :
    em.mantissa ≤ em.roundedMantissa ∧ em.roundedMantissa ≤ em.mantissa + 1 := by
  obtain ⟨m, round, sticky⟩ := em
  cases round <;> cases sticky <;>
    simp [ExtendedMantissa.roundedMantissa, ExtendedMantissa.accuracy, Accuracy.roundToNearestEven]
  omega

/-- The exponent of a rounded number, before a carry. -/
def roundedExponent (m : Nat) (e : Int) : Int :=
  Format.binary64.targetExponent (totalExponent m e)

theorem roundedExponent_eq (m : Nat) (e : Int) :
    roundedExponent m e = max ((m.log2 : Int) + e - 52) (-1074) := by
  have hwidth : Format.binary64.mantissaBits = 53 := rfl
  have hleast : Format.binary64.minExponent = -1074 := rfl
  unfold roundedExponent Format.targetExponent totalExponent
  omega

section

variable {m : Nat} {e : Int}

theorem le_roundedExponent (hm : 2 ^ 52 ≤ m) : e ≤ roundedExponent m e := by
  have hlog : 52 ≤ m.log2 := (Nat.le_log2 (by omega)).mpr hm
  rw [roundedExponent_eq]
  omega

/-- What is left of a mantissa that is cut. -/
def cutMantissa (m : Nat) (e : Int) : Nat :=
  m / 2 ^ (roundedExponent m e - e).toNat

theorem cutMantissa_lt : cutMantissa m e < 2 ^ 53 := by
  have hwidth : m.log2 + 1 ≤ 53 + (roundedExponent m e - e).toNat := by
    rw [roundedExponent_eq]
    omega
  unfold cutMantissa
  rw [Nat.div_lt_iff_lt_mul (Nat.two_pow_pos _), ← pow_add]
  exact Nat.lt_log2_self.trans_le (Nat.pow_le_pow_right (by decide) hwidth)

theorem cutMantissa_leads (hm : 2 ^ 52 ≤ m) :
    2 ^ 52 ≤ cutMantissa m e ∨ roundedExponent m e = -1074 := by
  have hlog : 52 ≤ m.log2 := (Nat.le_log2 (by omega)).mpr hm
  refine or_iff_not_imp_right.mpr fun hleast => ?_
  have hwidth : 52 + (roundedExponent m e - e).toNat = m.log2 := by
    rw [roundedExponent_eq] at hleast ⊢
    omega
  unfold cutMantissa
  rw [Nat.le_div_iff_mul_le (Nat.two_pow_pos _), ← pow_add, hwidth]
  exact Nat.log2_self_le (by omega)

/-- No double lies between a number and what is left of it when its mantissa is cut. -/
theorem IsStored.le_cut {n : Nat} {d : Int} (hn : IsStored n d) (hm : 2 ^ 52 ≤ m)
    (h : (n : ℚ) * 2 ^ d ≤ m * 2 ^ e) :
    (n : ℚ) * 2 ^ d ≤ cutMantissa m e * 2 ^ roundedExponent m e := by
  have hle := le_roundedExponent (e := e) hm
  rcases le_or_gt (roundedExponent m e) d with hd | hd
  · -- The double is a multiple of the unit to which the number is cut.
    obtain ⟨j, hj⟩ := Int.eq_ofNat_of_zero_le (Int.sub_nonneg_of_le hd)
    obtain ⟨k, hk⟩ := Int.eq_ofNat_of_zero_le (Int.sub_nonneg_of_le hle)
    have hunits : (n : ℚ) * 2 ^ d = (n * 2 ^ j : Nat) * 2 ^ roundedExponent m e := by
      rw [show d = j + roundedExponent m e by omega, zpow_add₀ (by norm_num)]
      push_cast
      rw [zpow_natCast, mul_assoc]
    have hcut : n * 2 ^ j ≤ cutMantissa m e := by
      unfold cutMantissa
      rw [hk, Int.toNat_natCast, Nat.le_div_iff_mul_le (Nat.two_pow_pos _)]
      rw [hunits, show roundedExponent m e = k + e by omega, zpow_add₀ (by norm_num), zpow_natCast,
        ← mul_assoc] at h
      exact_mod_cast le_of_mul_le_mul_right h (by positivity)
    rw [hunits]
    gcongr
  · -- The double has a smaller exponent, and the cut mantissa leads with a one.
    have hleads := (cutMantissa_leads (e := e) hm).resolve_right (by have := hn.le_exponent; omega)
    exact (size_lt hn.mantissa_lt hleads hd).le

/-- A mantissa of 53 bits or more is cut, and the exponent grows to make up for it. -/
theorem shiftToTargetExponent_eq (hm : 2 ^ 52 ≤ m) :
    ∃ em, shiftToTargetExponent .binary64 m e .exact = (em, roundedExponent m e) ∧
      em.mantissa = cutMantissa m e := by
  have hle := le_roundedExponent (e := e) hm
  have hexponent : e + (roundedExponent m e - e).toNat = roundedExponent m e := by omega
  exact ⟨_, Prod.ext rfl hexponent, mantissa_shiftRight _ _⟩

/-- A mantissa that is short enough is left as it is. -/
theorem shiftToTargetExponent_of_le (h : roundedExponent m e ≤ e) :
    shiftToTargetExponent .binary64 m e .exact = (.ofMantissaAndAccuracy m .exact, e) := by
  have hstay : (roundedExponent m e - e).toNat = 0 := by omega
  unfold roundedExponent at hstay
  unfold shiftToTargetExponent shiftToExponent
  dsimp only
  rw [hstay, Int.natCast_zero, Int.add_zero]
  rfl

/-- A mantissa that was incremented to a power of two is halved. -/
theorem shiftToTargetExponent_carry (he : -1074 ≤ e) :
    shiftToTargetExponent .binary64 (2 ^ 53) e .exact =
      (.ofMantissaAndAccuracy (2 ^ 52) .exact, e + 1) := by
  have hlog : (2 ^ 53).log2 = 53 := Nat.log2_two_pow
  have hone : (roundedExponent (2 ^ 53) e - e).toNat = 1 := by
    rw [roundedExponent_eq, hlog]
    omega
  unfold roundedExponent at hone
  unfold shiftToTargetExponent shiftToExponent
  dsimp only
  rw [hone]
  rfl

/-- The mantissa and exponent that a number is rounded to. -/
theorem exists_rounded (s : Sign) (hm : 2 ^ 52 ≤ m) :
    ∃ (n : Nat) (d : Int), n < 2 ^ 53 ∧ -1074 ≤ d ∧ (2 ^ 52 ≤ n ∨ d = -1074) ∧
      (cutMantissa m e : ℚ) * 2 ^ roundedExponent m e ≤ n * 2 ^ d ∧
      roundWithAccuracy .binary64 s m e .exact =
        if h : n = 0 then .zero s else .finite s n d (Nat.pos_of_ne_zero h) := by
  obtain ⟨em, hfirst, hem⟩ := shiftToTargetExponent_eq (e := e) hm
  obtain ⟨hlow, hhigh⟩ := roundedMantissa_bounds em
  have hcut := cutMantissa_lt (m := m) (e := e)
  have hleads := cutMantissa_leads (e := e) hm
  have hleast : -1074 ≤ roundedExponent m e := by rw [roundedExponent_eq]; omega
  rw [hem] at hlow hhigh
  unfold roundWithAccuracy
  rw [hfirst]
  dsimp only
  generalize em.roundedMantissa = n at hlow hhigh
  generalize roundedExponent m e = t at hleads hleast
  rcases Nat.lt_or_eq_of_le (show n ≤ 2 ^ 53 by omega) with hn | rfl
  · have hstay : roundedExponent n t ≤ t := by
      have hlog : n.log2 ≤ 52 := by
        rcases Nat.eq_zero_or_pos n with rfl | hpos
        · decide
        · exact Nat.le_of_lt_succ ((Nat.log2_lt hpos.ne').mpr hn)
      rw [roundedExponent_eq]
      omega
    rw [shiftToTargetExponent_of_le hstay]
    refine ⟨n, t, hn, hleast, by omega, ?_, rfl⟩
    gcongr
  · rw [shiftToTargetExponent_carry hleast]
    refine ⟨2 ^ 52, t + 1, by decide, by omega, Or.inl le_rfl, ?_, rfl⟩
    have hcarry : ((2 ^ 52 : Nat) : ℚ) * 2 ^ (t + 1) = (2 ^ 53 : Nat) * 2 ^ t := by
      rw [zpow_add₀ (by norm_num)]
      push_cast
      ring
    rw [hcarry]
    gcongr

/-! ## Rounded numbers -/

/-- What a number is rounded to is no less than any double that is at most the number. -/
theorem covers_round (hm : 2 ^ 52 ≤ m) :
    Covers ⟨Float.Model.pack (roundWithAccuracy .binary64 .positive m e .exact)⟩ (m * 2 ^ e) := by
  obtain ⟨n, d, hn, hleast, hleads, hcut, hround⟩ := exists_rounded .positive (e := e) hm
  have hcovered : ∀ k c, IsStored k c → (k : ℚ) * 2 ^ c ≤ m * 2 ^ e → (k : ℚ) * 2 ^ c ≤ n * 2 ^ d :=
    fun k c hk hle => (hk.le_cut hm hle).trans hcut
  unfold Covers
  simp only [Binary.ofFloat?_eq]
  rw [hround]
  split
  next hzero =>
    subst hzero
    refine Or.inr ⟨_, Binary.ofUnpacked?_pack_zero _, fun k c hk hle => ?_⟩
    rw [Binary.toRat_zero]
    simpa using hcovered k c hk hle
  next hpos =>
    rcases le_or_gt d 971 with hd | hd
    · rw [Binary.unpack_pack (Nat.pos_of_ne_zero hpos) ⟨hn, hleast, hd, hleads⟩]
      refine Or.inr ⟨_, rfl, fun k c hk hle => ?_⟩
      rw [Binary.isNegative, Binary.toRat_positive]
      exact hcovered k c hk hle
    · exact Or.inl (Binary.unpack_pack_of_lt _ hd)

end

/-- The parts of a double that is more than zero. -/
theorem exists_positive {x : Float} {a : Binary} (h : Binary.ofFloat? x = some a)
    (hpos : 0 < a.toRat) :
    ∃ m e hm, x.toModel.unpack = .finite .positive m e hm ∧ a = ⟨false, m, e⟩ := by
  rw [Binary.ofFloat?_eq] at h
  cases hx : x.toModel.unpack with
  | notANumber | infinity =>
      rw [hx] at h
      cases h
  | zero s =>
      rw [hx] at h
      obtain rfl := Option.some.inj h
      rw [Binary.toRat_zero] at hpos
      exact absurd hpos (lt_irrefl 0)
  | finite s m e hm =>
      rw [hx] at h
      obtain rfl := Option.some.inj h
      cases s with
      | negative =>
          have hsize : (0 : ℚ) < m * 2 ^ e := by positivity
          rw [Binary.isNegative, Binary.toRat_negative] at hpos
          exact absurd hpos (neg_neg_of_pos hsize).not_gt
      | positive => exact ⟨m, e, hm, rfl, rfl⟩

/-- What a product of positive doubles is rounded to. -/
theorem covers_mul {x y : Float} {a b : Binary} (ha : Binary.ofFloat? x = some a)
    (hb : Binary.ofFloat? y = some b) (hpos : 0 < a.toRat) (hpos' : 0 < b.toRat)
    (hleads : 2 ^ 52 ≤ b.mantissa) : Covers (x * y) (a.toRat * b.toRat) := by
  obtain ⟨m, d, hm, hx, rfl⟩ := exists_positive ha hpos
  obtain ⟨n, e, hn, hy, rfl⟩ := exists_positive hb hpos'
  have hmul : x * y =
      ⟨Float.Model.pack (UnpackedFloat.mul .binary64 x.toModel.unpack y.toModel.unpack)⟩ := rfl
  have hvalue : (m * 2 ^ d : ℚ) * (n * 2 ^ e) = (m * n : Nat) * 2 ^ (d + e) := by
    rw [zpow_add₀ (by norm_num)]
    push_cast
    ring
  rw [hmul, hx, hy, Binary.toRat_positive, Binary.toRat_positive, hvalue]
  exact covers_round (hleads.trans (Nat.le_mul_of_pos_left n hm))

theorem unpack_mul_of_infinity {x y : Float} {b : Binary}
    (hx : x.toModel.unpack = .infinity .positive) (hb : Binary.ofFloat? y = some b)
    (hpos : 0 < b.toRat) : (x * y).toModel.unpack = .infinity .positive := by
  obtain ⟨n, e, hn, hy, rfl⟩ := exists_positive hb hpos
  have hmul : (x * y).toModel.unpack =
      (Float.Model.pack (UnpackedFloat.mul .binary64 x.toModel.unpack y.toModel.unpack)).unpack :=
    rfl
  rw [hmul, hx, hy]
  exact Binary.unpack_pack_infinity .positive

/-! ## Natural numbers -/

/-- Numbers below 2^53 are doubles. -/
theorem exists_isStored {n : Nat} (hpos : 0 < n) (h : n < 2 ^ 53) :
    ∃ m e, IsStored m e ∧ (m : ℚ) * 2 ^ e = n := by
  have hne : n ≠ 0 := hpos.ne'
  have hlog : n.log2 ≤ 52 := Nat.le_of_lt_succ ((Nat.log2_lt hne).mpr h)
  have hlow := Nat.log2_self_le hne
  have hhigh := Nat.lt_log2_self (n := n)
  obtain ⟨k, hk⟩ := Nat.exists_eq_add_of_le hlog
  refine ⟨n * 2 ^ k, -k, ⟨?_, by omega, by omega, Or.inl ?_⟩, ?_⟩
  · calc n * 2 ^ k < 2 ^ (n.log2 + 1) * 2 ^ k := by gcongr
      _ = 2 ^ 53 := by rw [← pow_add]; congr 1; omega
  · calc 2 ^ 52 = 2 ^ n.log2 * 2 ^ k := by rw [← pow_add, ← hk]
      _ ≤ n * 2 ^ k := by gcongr
  · push_cast
    rw [mul_assoc, ← zpow_natCast, ← zpow_add₀ (by norm_num)]
    simp

theorem Covers.trans {x : Float} {p q : ℚ} (h : Covers x p)
    (hle : ∀ m e, IsStored m e → (m : ℚ) * 2 ^ e ≤ q → (m : ℚ) * 2 ^ e ≤ p) : Covers x q := by
  obtain hinf | ⟨r, hr, hcovers⟩ := h
  · exact Or.inl hinf
  · exact Or.inr ⟨r, hr, fun m e hm hq => hcovers m e hm (hle m e hm hq)⟩

/-- The value of a double that covers a number from one on is positive. -/
theorem Covers.pos {x : Float} {q : ℚ} {r : Binary} (h : Covers x q) (hq : 1 ≤ q)
    (hr : Binary.ofFloat? x = some r) : 0 < r.toRat := by
  have hone : ((2 ^ 52 : Nat) : ℚ) * 2 ^ (-52 : ℤ) = 1 := by norm_num
  obtain hinf | ⟨r', hr', hcovers⟩ := h
  · rw [Binary.ofFloat?_eq, hinf] at hr
    cases hr
  · obtain rfl := Option.some.inj (hr.symm.trans hr')
    have hle := hcovers (2 ^ 52) (-52) ⟨by decide, by decide, by decide, Or.inl le_rfl⟩
      (hone.trans_le hq)
    rw [hone] at hle
    exact zero_lt_one.trans_le hle

/-- What a natural number is rounded to when it is first scaled up. -/
theorem covers_round_shiftLeft {n k : Nat} (h : 2 ^ 52 ≤ n <<< k) :
    Covers ⟨Float.Model.pack (roundWithAccuracy .binary64 .positive (n <<< k) (-k) .exact)⟩ n := by
  have hvalue : (n : ℚ) = (n <<< k : Nat) * 2 ^ (-k : ℤ) := by
    rw [Nat.shiftLeft_eq]
    push_cast
    rw [mul_assoc, ← zpow_natCast, ← zpow_add₀ (by norm_num)]
    simp
  rw [hvalue]
  exact covers_round h

theorem covers_toFloat {n : Nat} (hpos : 0 < n) (h : n < 2 ^ 53) : Covers n.toUInt64.toFloat n := by
  have hne : n ≠ 0 := hpos.ne'
  have hlog : n.log2 ≤ 52 := Nat.le_of_lt_succ ((Nat.log2_lt hne).mpr h)
  have hscale : (0 - roundedExponent n 0).toNat = 52 - n.log2 := by
    rw [roundedExponent_eq]
    omega
  have hround : n.toUInt64.toFloat = ⟨Float.Model.pack (roundWithAccuracy .binary64 .positive
      (n <<< (52 - n.log2)) (-(52 - n.log2 : Nat)) .exact)⟩ := by
    have hwhole : n.toUInt64.toNat = n := UInt64.toNat_ofNat_of_lt' (h.trans (by decide))
    have hgt : compare (n : ℤ) 0 = .gt := compare_gt_iff_gt.mpr (by omega)
    unfold UInt64.toFloat Float.Model.ofUInt64 UnpackedFloat.ofUInt64 UnpackedFloat.ofNat
      UnpackedFloat.ofInt UnpackedFloat.normalize
    rw [hwhole, hgt]
    unfold UnpackedFloat.round decreaseExponent
    dsimp only
    unfold roundedExponent at hscale
    rw [Int.toNat_natCast, hscale, Int.zero_sub]
  rw [hround]
  apply covers_round_shiftLeft
  calc 2 ^ 52 = 2 ^ n.log2 * 2 ^ (52 - n.log2) := by rw [← pow_add]; congr 1; omega
    _ ≤ n * 2 ^ (52 - n.log2) := Nat.mul_le_mul_right _ (Nat.log2_self_le hne)
    _ = n <<< (52 - n.log2) := (Nat.shiftLeft_eq _ _).symm

/-- What a natural number is rounded to. -/
theorem covers_ofNat {n : Nat} (hpos : 0 < n) : Covers (Float.ofNat n) n := by
  have hscientific : Float.ofNat n = Float.ofScientific n false 0 := rfl
  rw [hscientific]
  unfold Float.ofScientific
  split
  next h =>
    -- A number below 2^53 is multiplied by one when it is a double already.
    have hone : Binary.ofFloat? Float.exactlyRepresentablePowersOfTen[0] =
        some ⟨false, 2 ^ 52, -52⟩ := rfl
    have hcovers := covers_toFloat hpos h.1
    have hn : (1 : ℚ) ≤ n := by exact_mod_cast hpos
    rw [if_neg Bool.false_ne_true]
    obtain hinf | ⟨r, hr, hle⟩ := id hcovers
    · exact Or.inl (unpack_mul_of_infinity hinf hone (by norm_num [Binary.toRat_positive]))
    · have hmul := covers_mul hr hone (hcovers.pos hn hr) (by norm_num [Binary.toRat_positive])
        le_rfl
      refine hmul.trans fun m e hm hq => ?_
      rw [Binary.toRat_positive]
      norm_num
      exact hle m e hm hq
  next h =>
    have hlarge : 2 ^ 53 ≤ n := by omega
    have hround : UnpackedFloat.ofScientific .binary64 n (Int.ofNat 0) =
        roundWithAccuracy .binary64 .positive (n <<< 53) (-(53 : Nat)) .exact := by
      unfold UnpackedFloat.ofScientific
      rw [dif_neg hpos.ne', if_neg (by decide), if_neg (by simp), if_pos (by decide)]
      have hwidth : Format.binary64.mantissaBits = 53 := rfl
      have hfactor : 10 ^ (Int.ofNat 0).toNat = 1 := rfl
      have hsign : Sign.positive * Sign.positive = .positive := rfl
      unfold UnpackedFloat.mul
      simp only [hwidth, hfactor, hsign, Nat.mul_one, Int.add_zero]
    have hleads : 2 ^ 52 ≤ n <<< 53 := by
      rw [Nat.shiftLeft_eq]
      omega
    dsimp only
    unfold Float.Model.ofScientific
    rw [if_neg Bool.false_ne_true, hround]
    exact covers_round_shiftLeft hleads

end DesignBridge
