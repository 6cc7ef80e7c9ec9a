import DesignBridge.Number.Basic
import DesignBridge.Text.Digit

/-! # The form of written numbers

An integer is written in digits that do not begin with a zero, unless it is zero. A double that is
finite is written with a point among its digits, with an exponent behind them, or with both.
-/

namespace DesignBridge

open Text

/-- The sign before a number. -/
def signText (negative : Bool) : List Char :=
  if negative then ['-'] else []

/-- Whether characters are digits of a number, at least one. -/
structure IsDigits (ds : List Char) : Prop where
  ne_nil : ds ≠ []
  digits : ∀ c ∈ ds, isAsciiDigit c = true

/-- Whether characters are a number without fraction: digits with no zero before others. -/
def IsWhole (ds : List Char) : Prop :=
  ds = ['0'] ∨ IsDigits ds ∧ ds.head? ≠ some '0'

/-- The forms of a double that is not negative. -/
inductive RealForm : List Char → Prop
  | pointed {whole fraction : List Char} (hwhole : IsWhole whole) (hfraction : IsDigits fraction) :
      RealForm (whole ++ '.' :: fraction)
  | scaled {whole : List Char} (hwhole : IsWhole whole) (e : Int) :
      RealForm (whole ++ Number.exponentText e)
  | both {whole fraction : List Char} (hwhole : IsWhole whole) (hfraction : IsDigits fraction)
      (e : Int) : RealForm (whole ++ '.' :: (fraction ++ Number.exponentText e))

theorem IsDigits.append {ds more : List Char} (h : IsDigits ds)
    (hmore : ∀ c ∈ more, isAsciiDigit c = true) : IsDigits (ds ++ more) := by
  constructor
  · simp [h.ne_nil]
  · intro c hc
    rcases List.mem_append.mp hc with hc | hc
    · exact h.digits c hc
    · exact hmore c hc

theorem IsDigits.prepend {ds more : List Char} (h : IsDigits ds)
    (hmore : ∀ c ∈ more, isAsciiDigit c = true) : IsDigits (more ++ ds) := by
  constructor
  · simp [h.ne_nil]
  · intro c hc
    rcases List.mem_append.mp hc with hc | hc
    · exact hmore c hc
    · exact h.digits c hc

theorem IsWhole.isDigits {ds : List Char} (h : IsWhole ds) : IsDigits ds := by
  rcases h with rfl | ⟨h, _⟩
  · exact ⟨by simp, by simp [isAsciiDigit]⟩
  · exact h

theorem IsDigits.cons {ds : List Char} (h : IsDigits ds) :
    ∃ c more, ds = c :: more ∧ isAsciiDigit c = true := by
  cases ds with
  | nil => exact absurd rfl h.ne_nil
  | cons c more => exact ⟨c, more, rfl, h.digits c (List.mem_cons_self ..)⟩

/-- A double that is not negative begins with a digit. -/
theorem RealForm.digit {cs : List Char} (h : RealForm cs) :
    ∃ c more, cs = c :: more ∧ isAsciiDigit c = true := by
  cases h with
  | pointed hwhole | scaled hwhole | both hwhole =>
      obtain ⟨c, more, rfl, hc⟩ := hwhole.isDigits.cons
      exact ⟨c, _, rfl, hc⟩

theorem isAsciiDigit_replicate (n : Nat) : ∀ c ∈ List.replicate n '0', isAsciiDigit c = true := by
  intro c hc
  rw [(List.mem_replicate.mp hc).2]
  rfl

/-! ## Integers -/

theorem isDigits_toDigits (n : Nat) : IsDigits (Nat.toDigits 10 n) := by
  refine ⟨Nat.toDigits_ne_nil, fun c hc => ?_⟩
  have hdigit : c.isDigit = true := Nat.isDigit_of_mem_toDigits (by decide) (by decide) hc
  exact hdigit

/-- The digits of a number that is not zero do not begin with a zero. -/
theorem head?_toDigits {n : Nat} (hn : n ≠ 0) : (Nat.toDigits 10 n).head? ≠ some '0' := by
  induction n using Nat.strongRecOn with
  | ind n ih =>
      rw [Nat.toDigits_eq_if (by decide)]
      split
      next hsmall =>
        have hall : ∀ d < 10, d ≠ 0 → [Nat.digitChar d].head? ≠ some '0' := by decide
        exact hall n hsmall hn
      next hlarge =>
        have hfront := ih (n / 10) (by omega) (by omega)
        rw [List.head?_append, Option.or_of_isSome (by simp)]
        exact hfront

theorem isWhole_toDigits (n : Nat) : IsWhole (Nat.toDigits 10 n) := by
  by_cases hn : n = 0
  · subst hn
    exact Or.inl (Nat.toDigits_zero 10)
  · exact Or.inr ⟨isDigits_toDigits n, head?_toDigits hn⟩

theorem natOfDigits_toDigits (n : Nat) : natOfDigits (Nat.toDigits 10 n) = n := by
  have h : Nat.ofDigitChars 10 (Nat.toDigits 10 n) 0 = n := Nat.ofDigitChars_ten_toDigits
  exact h

/-! ## Doubles -/

namespace Decimal

theorem Range.pick?_ne_zero {r : Range} {p : Int} {n : Nat} (h : r.pick? p = some n) : n ≠ 0 := by
  unfold pick? at h
  dsimp only at h
  split at h
  next hfloor _ =>
    rw [Bool.and_eq_true, bne_iff_ne] at hfloor
    split at h
    next =>
      obtain rfl := Option.some.inj h
      exact hfloor.2
    next =>
      obtain rfl := Option.some.inj h
      exact Nat.succ_ne_zero _
    next =>
      obtain rfl := Option.some.inj h
      split <;> omega
  next hfloor _ =>
    rw [Bool.and_eq_true, bne_iff_ne] at hfloor
    obtain rfl := Option.some.inj h
    exact hfloor.2
  next =>
    obtain rfl := Option.some.inj h
    exact Nat.succ_ne_zero _
  next => cases h

theorem firstHit_ne_zero (r : Range) (p : Int) (count : Nat) : (firstHit r p count).1 ≠ 0 := by
  induction count generalizing p with
  | zero =>
      unfold firstHit
      dsimp only
      omega
  | succ count ih =>
      unfold firstHit
      split
      next n hpick => exact Range.pick?_ne_zero hpick
      next => exact ih (p - 1)

theorem mem_of_mem_dropTrailingZeros {c : Char} {ds : List Char}
    (h : c ∈ dropTrailingZeros ds) : c ∈ ds := by
  unfold dropTrailingZeros at h
  rw [List.mem_reverse] at h
  exact List.mem_reverse.mp ((List.dropWhile_sublist _).subset h)

/-- A first digit that is not zero is no zero at the end. -/
theorem dropTrailingZeros_cons {lead : Char} (hlead : lead ≠ '0') (ds : List Char) :
    dropTrailingZeros (lead :: ds) = lead :: dropTrailingZeros ds := by
  unfold dropTrailingZeros
  rw [List.reverse_cons, List.dropWhile_append]
  split
  next hempty =>
    rw [List.isEmpty_iff.mp hempty]
    simp [hlead]
  next => simp

/-- The digits of a decimal that is written: at least one, and the first of them is not zero. -/
structure Leads (ds : List Char) : Prop extends IsDigits ds where
  head : ds.head? ≠ some '0'

theorem Leads.isWhole {ds : List Char} (h : Leads ds) : IsWhole ds :=
  Or.inr ⟨h.toIsDigits, h.head⟩

theorem Leads.append {ds more : List Char} (h : Leads ds)
    (hmore : ∀ c ∈ more, isAsciiDigit c = true) : Leads (ds ++ more) := by
  refine ⟨h.toIsDigits.append hmore, ?_⟩
  rw [List.head?_append, Option.or_of_isSome (List.isSome_head?.mpr h.ne_nil)]
  exact h.head

theorem Leads.take {ds : List Char} (h : Leads ds) {n : Nat} (hn : 0 < n) :
    Leads (ds.take n) := by
  have hhead : (ds.take n).head? = ds.head? := by
    rw [List.head?_take, if_neg (Nat.ne_of_gt hn)]
  refine ⟨⟨?_, fun c hc => h.digits c (List.mem_of_mem_take hc)⟩, hhead ▸ h.head⟩
  intro hnil
  rw [List.take_eq_nil_iff] at hnil
  rcases hnil with hzero | hnil
  · omega
  · exact h.ne_nil hnil

theorem shortest_leads (m : Nat) (q : Int) : Leads (shortest m q).digits := by
  have hpos := firstHit_ne_zero (Range.ofBinary m q) (magnitude m q) 17
  obtain ⟨n, hn⟩ : ∃ n, (firstHit (Range.ofBinary m q) (magnitude m q) 17).1 = n := ⟨_, rfl⟩
  have hdigits : (shortest m q).digits = dropTrailingZeros (Nat.toDigits 10 n) := by
    rw [← hn]
    rfl
  rw [hn] at hpos
  rw [hdigits]
  have hall := (isDigits_toDigits n).digits
  have hhead := head?_toDigits hpos
  -- Zeros at the end are dropped; the first digit is none of them.
  cases h : Nat.toDigits 10 n with
  | nil => exact absurd h Nat.toDigits_ne_nil
  | cons lead rest =>
      rw [h] at hall hhead
      have hlead : lead ≠ '0' := fun heq => hhead (congrArg some heq)
      rw [dropTrailingZeros_cons hlead]
      refine ⟨⟨List.cons_ne_nil _ _, fun c hc => ?_⟩, fun heq => hlead (Option.some.inj heq)⟩
      rcases List.mem_cons.mp hc with rfl | hc
      · exact hall c (List.mem_cons_self ..)
      · exact hall c (List.mem_cons_of_mem _ (mem_of_mem_dropTrailingZeros hc))

end Decimal

namespace Number

open Decimal

/-- A decimal is laid out as a number with a point or an exponent. -/
theorem layOut_form {d : Decimal} (h : Leads d.digits) : RealForm (layOut d) := by
  unfold layOut
  split
  next =>
    split
    next =>
      -- The point stands before all digits.
      have hfraction := h.toIsDigits.prepend (isAsciiDigit_replicate (-d.point).toNat)
      exact RealForm.pointed (Or.inl rfl) hfraction
    next hpoint =>
      have hfront : Leads (d.digits.take d.point.toNat ++
          List.replicate (d.point.toNat - d.digits.length) '0') :=
        (h.take (by omega)).append (isAsciiDigit_replicate _)
      refine RealForm.pointed hfront.isWhole ?_
      split
      next => exact ⟨by simp, by simp [isAsciiDigit]⟩
      next hback =>
        rw [List.isEmpty_iff] at hback
        exact ⟨hback, fun c hc => h.digits c (List.mem_of_mem_drop hc)⟩
  next =>
    split
    next hnil => exact absurd hnil h.ne_nil
    next lead rest hdigits =>
      rw [hdigits] at h
      split
      next hrest =>
        rw [List.isEmpty_iff.mp hrest] at h
        exact RealForm.scaled h.isWhole _
      next hrest =>
        rw [List.isEmpty_iff] at hrest
        have hfraction : IsDigits rest :=
          ⟨hrest, fun c hc => h.digits c (List.mem_cons_of_mem _ hc)⟩
        exact RealForm.both (h.take Nat.zero_lt_one).isWhole hfraction _

open Float.Model in
/-- Only infinities and what is not a number have the largest exponent. -/
theorem exponent_ne {x : Float} (hnan : x.isNaN = false) (hinf : x.isInf = false) :
    (x.toBits.toNat >>> 52) % 2048 ≠ 2047 := by
  intro h
  have hexponent : @UnpackedFloat.unpackExponent Format.binary64 x.toModel.toBits.toBitVec =
      -1#11 := by
    apply BitVec.eq_of_toNat_eq
    simp only [UnpackedFloat.unpackExponent, BitVec.toNat_cast]
    exact h
  have hnan' : x.toModel.unpack.isNaN = false := hnan
  have hinf' : x.toModel.unpack.isInf = false := hinf
  unfold Float.Model.unpack UnpackedFloat.unpack at hnan' hinf'
  dsimp only at hnan' hinf'
  rw [if_pos hexponent] at hnan' hinf'
  split at hnan'
  next hmantissa =>
    rw [if_pos hmantissa] at hinf'
    cases hinf'
  next => cases hnan'

/-- A double that is neither an infinity nor without a value has parts. -/
theorem exists_parts {x : Float} (hnan : x.isNaN = false) (hinf : x.isInf = false) :
    ∃ b, Binary.ofFloat? x = some b := by
  unfold Binary.ofFloat?
  dsimp only
  split
  next hfield => exact absurd hfield (exponent_ne hnan hinf)
  next =>
    split
    next => exact ⟨_, rfl⟩
    next => exact ⟨_, rfl⟩

/-- The text of a finite double: a sign for a negative one, and digits with a point or an
exponent. -/
theorem realText_form {x : Float} {b : Binary} (h : Binary.ofFloat? x = some b) :
    ∃ size, RealForm size ∧ (realText x).toList = signText b.negative ++ size := by
  have hzero : RealForm (['0'] ++ '.' :: ['0']) :=
    .pointed (Or.inl rfl) (IsWhole.isDigits (Or.inl rfl))
  have hsign :
      ∀ size, (if b.negative then '-' :: size else size) = signText b.negative ++ size := by
    intro size
    unfold signText
    split <;> rfl
  unfold realText
  rw [h]
  dsimp only
  rw [String.toList_ofList, hsign]
  refine ⟨_, ?_, rfl⟩
  split
  next => exact hzero
  next => exact layOut_form (shortest_leads _ _)

theorem toList_intText (n : Int) :
    (intText n).toList = signText (decide (n < 0)) ++ Nat.toDigits 10 n.natAbs := by
  simp [intText, signText]

theorem signed_natAbs (n : Int) : (if decide (n < 0) then -(n.natAbs : Int) else n.natAbs) = n := by
  by_cases hneg : n < 0
  · rw [if_pos (by simpa using hneg)]
    omega
  · rw [if_neg (by simpa using hneg)]
    omega

end Number

end DesignBridge
