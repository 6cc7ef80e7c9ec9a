import DesignBridge.Proofs.Number.Rounding
import DesignBridge.Session.Backoff

/-! # How a delay grows

A delay that grew is at most the longest one, and it is no shorter than it was unless it was longer
than that. Both are about the values of doubles, so they hold however a product is rounded.
-/

namespace DesignBridge

/-- Whatever a number is made a double by, up to ten it does not shrink. -/
theorem Number.exists_toFloat {n : Number} {q : ℚ} (h : n.toRat? = some q) (hpos : 0 < q)
    (hfits : n.exceedsDoubles = false) :
    ∃ a, Binary.ofFloat? n.toFloat = some a ∧ min q 10 ≤ a.toRat := by
  cases n with
  | real x =>
      obtain ⟨a, ha, rfl⟩ := Option.map_eq_some_iff.mp h
      exact ⟨a, ha, min_le_left _ _⟩
  | int k =>
      obtain rfl := Option.some.inj h
      obtain ⟨n, rfl⟩ := Int.eq_ofNat_of_zero_le (Int.cast_pos.mp hpos).le
      have hn : 0 < n := by exact_mod_cast hpos
      obtain ⟨m, e, hm, hvalue⟩ := exists_isStored (n := min n 10) (by omega) (by omega)
      obtain hinf | ⟨a, ha, hcovers⟩ := covers_ofNat hn
      · have hfinite : exceedsDoubles (.int n) = !(Float.ofNat n).toModel.unpack.isFinite := rfl
        rw [hfinite, hinf] at hfits
        cases hfits
      · have hle := hcovers m e hm (by rw [hvalue]; exact_mod_cast min_le_left n 10)
        rw [hvalue] at hle
        exact ⟨a, ha, by exact_mod_cast hle⟩

namespace Backoff

theorem ofFloat?_maxDelay : Binary.ofFloat? maxDelay = some ⟨false, 5 * 2 ^ 50, -49⟩ := rfl

theorem toRat_maxDelay : (Binary.mk false (5 * 2 ^ 50) (-49)).toRat = 10 := by
  rw [Binary.toRat_positive]
  norm_num

/-- What a positive delay grows to. -/
theorem exists_grow {delay : Number} {q : ℚ} (h : delay.toRat? = some q) (hpos : 0 < q)
    (hfits : delay.exceedsDoubles = false) :
    ∃ r, (grow delay).toRat? = some r ∧ min q 10 ≤ r ∧ r ≤ 10 := by
  obtain ⟨a, ha, hle⟩ := Number.exists_toFloat h hpos hfits
  have hfactor : Binary.ofFloat? 1.5 = some ⟨false, 3 * 2 ^ 51, -52⟩ := rfl
  have hhalf : (Binary.mk false (3 * 2 ^ 51) (-52)).toRat = 3 / 2 := by
    rw [Binary.toRat_positive]
    norm_num
  have hapos : 0 < a.toRat := (lt_min hpos (by norm_num)).trans_le hle
  have hcapped : ∃ r, (Number.real maxDelay).toRat? = some r ∧ min q 10 ≤ r ∧ r ≤ 10 :=
    ⟨10, congrArg some toRat_maxDelay, min_le_right q 10, le_rfl⟩
  have hcovers := covers_mul ha hfactor hapos (by rw [hhalf]; norm_num) (by decide)
  rw [hhalf] at hcovers
  unfold grow
  dsimp only
  split
  next => exact hcapped
  next hmore =>
    obtain hinf | ⟨b, hb, hgrown⟩ := hcovers
    · exact absurd (Binary.lt_of_infinity ofFloat?_maxDelay hinf) hmore
    · rw [Binary.lt_iff ofFloat?_maxDelay hb, toRat_maxDelay, not_lt] at hmore
      have hgrows : a.toRat ≤ b.toRat := by
        obtain ⟨m, e, _, _, rfl⟩ := exists_positive ha hapos
        rw [Binary.toRat_positive] at hapos hgrown ⊢
        exact hgrown m e (Binary.isStored_of_ofFloat? ha) (by linarith)
      exact ⟨b.toRat, congrArg (Option.map Binary.toRat) hb, hle.trans hgrows, hmore⟩

end Backoff

end DesignBridge
