import DesignBridge.Proofs.Session.Budget
import DesignBridge.Proofs.Session.Growth

/-! # The pauses of a run

From an initial delay of at most ten seconds the pauses of a run are never longer than that, and
they do not get shorter while attempts are refused. A longer initial delay is waited for all the
same, behind the first attempt and behind every connection; only the pauses after that are cut to
ten seconds.
-/

namespace DesignBridge.Session

/-! ## A delay that grows again and again -/

/-- The values of a delay that grows again and again. -/
structure Growing (initial : Number) (q : ℚ) (value : Nat → ℚ) : Prop where
  zero : value 0 = q
  toRat? : ∀ k, (Backoff.grow^[k] initial).toRat? = some (value k)
  low : ∀ k, min (value k) 10 ≤ value (k + 1)
  high : ∀ k, value (k + 1) ≤ 10

theorem exists_growing {initial : Number} {q : ℚ} (hq : initial.toRat? = some q) (hpos : 0 < q)
    (hfits : initial.exceedsDoubles = false) : ∃ value, Growing initial q value := by
  have hvalue : ∀ k, ∃ v, (Backoff.grow^[k] initial).toRat? = some v ∧ 0 < v := by
    intro k
    induction k with
    | zero => exact ⟨q, hq, hpos⟩
    | succ k ih =>
        obtain ⟨v, hv, hvpos⟩ := ih
        obtain ⟨w, hw, hlow, _⟩ :=
          Backoff.exists_grow hv hvpos (exceedsDoubles_iterate_grow hfits k)
        rw [Function.iterate_succ_apply']
        exact ⟨w, hw, (lt_min hvpos (by norm_num)).trans_le hlow⟩
  choose value hvalue hvaluepos using hvalue
  have hstep : ∀ k, min (value k) 10 ≤ value (k + 1) ∧ value (k + 1) ≤ 10 := by
    intro k
    obtain ⟨w, hw, hlow, hhigh⟩ := Backoff.exists_grow (hvalue k) (hvaluepos k)
      (exceedsDoubles_iterate_grow hfits k)
    have hnext := hvalue (k + 1)
    rw [Function.iterate_succ_apply', hw] at hnext
    obtain rfl := Option.some.inj hnext
    exact ⟨hlow, hhigh⟩
  exact ⟨value, Option.some.inj ((hvalue 0).symm.trans hq), hvalue, fun k => (hstep k).1,
    fun k => (hstep k).2⟩

namespace Growing

variable {initial : Number} {q : ℚ} {value : Nat → ℚ}

/-- A delay that is not too long at first never gets too long. -/
theorem le_ten (h : Growing initial q value) (hq : q ≤ 10) (k : Nat) : value k ≤ 10 := by
  cases k with
  | zero => exact h.zero.trans_le hq
  | succ k => exact h.high k

theorem le_next (h : Growing initial q value) (hq : q ≤ 10) (k : Nat) :
    value k ≤ value (k + 1) := by
  have hlow := h.low k
  rwa [min_eq_left (h.le_ten hq k)] at hlow

/-- A delay that is too long at first is cut when it is to grow, and stays so. -/
theorem next_eq_ten (h : Growing initial q value) (hq : 10 < q) (k : Nat) : value (k + 1) = 10 := by
  have hten : 10 ≤ value k := by
    induction k with
    | zero => exact (h.zero.symm ▸ hq).le
    | succ k ih => exact (min_eq_right ih).symm.trans_le (h.low k)
  exact le_antisymm (h.high k) ((min_eq_right hten).symm.trans_le (h.low k))

end Growing

/-! ## The pauses -/

section

variable {s t : State} {initial limit : Number} {q : ℚ} {outcomes : List Attempt}
  {pauses : List Number}

/-- The values of the pauses of a run. -/
theorem Rounds.map_toRat? (h : Rounds s outcomes pauses t) (hs : s.backoff = .fresh initial limit)
    {value : Nat → ℚ} (hvalue : ∀ k, (Backoff.grow^[k] initial).toRat? = some (value k)) :
    pauses.map Number.toRat? = ((List.range outcomes.length).map fun n =>
      value (failedRetries (outcomes.take (n + 1)))).map some := by
  rw [h.pauses_eq hs, List.map_map, List.map_map]
  exact List.map_congr_left fun n _ => hvalue _

/-- A run that pauses has an initial delay that it can wait for. -/
theorem Rounds.initial_fits (h : Rounds s outcomes pauses t) (hs : s.backoff = .fresh initial limit)
    (hne : pauses ≠ []) : initial.exceedsDoubles = false := by
  obtain ⟨pause, rest, rfl⟩ := List.exists_cons_of_ne_nil hne
  have hfirst := (h.pause_eq hs (n := 0) rfl).2
  rw [StartsOver.failedRetries_eq_zero (Or.inl rfl)] at hfirst
  rw [← h.pause_fits pause (List.mem_cons_self ..), hfirst]
  rfl

end

/-- From an initial delay of at most ten seconds no pause of a run is longer than that, and none is
shorter than the one before it unless a connection lies between them. From a longer one the first
pause, and the first behind a connection, is longer, and all others are ten seconds. -/
theorem pauses_capped_behind_first {settings : ExecutorSettings} {interpreter : Interpreter} {q : ℚ}
    (hq : settings.reconnectDelay.toRat? = some q) (hpos : 0 < q) {outcomes : List Attempt}
    {pauses : List Number} {t : State}
    (h : Rounds (State.fresh settings interpreter) outcomes pauses t) :
    ∃ values : List ℚ, pauses.map Number.toRat? = values.map some ∧
      (∀ n v, values[n]? = some v → StartsOver outcomes n → v = q) ∧
      (q ≤ 10 → (∀ v ∈ values, v ≤ 10) ∧
        ∀ n v w, values[n]? = some v → values[n + 1]? = some w → ¬ StartsOver outcomes (n + 1) →
          v ≤ w) ∧
      (10 < q → ∀ n v, values[n]? = some v → ¬ StartsOver outcomes n → v = 10) := by
  by_cases hne : pauses = []
  · subst hne
    exact ⟨[], rfl, by simp, by simp, by simp⟩
  obtain ⟨value, hgrowing⟩ := exists_growing hq hpos (h.initial_fits rfl hne)
  refine ⟨_, h.map_toRat? rfl hgrowing.toRat?, ?_, fun hlow => ⟨?_, ?_⟩, fun hhigh => ?_⟩
  · intro n v hv hover
    rw [Rounds.getElem?_map_range, hover.failedRetries_eq_zero, hgrowing.zero] at hv
    exact hv.2.symm
  · intro v hv
    obtain ⟨n, _, rfl⟩ := List.mem_map.mp hv
    exact hgrowing.le_ten hlow _
  · intro n v w hv hw hretry
    rw [Rounds.getElem?_map_range] at hv hw
    obtain ⟨_, rfl⟩ := hv
    obtain ⟨hn, rfl⟩ := hw
    rw [failedRetries_take_succ hn hretry]
    exact hgrowing.le_next hlow _
  · intro n v hv hretry
    rw [Rounds.getElem?_map_range] at hv
    obtain ⟨hn, rfl⟩ := hv
    cases n with
    | zero => exact absurd (Or.inl rfl) hretry
    | succ n =>
        rw [failedRetries_take_succ hn hretry]
        exact hgrowing.next_eq_ten hhigh _

/-- Two pauses in a row are at most ten seconds from a delay of two, and thirty and ten seconds from
a delay of thirty. -/
theorem pauses_from_two_and_thirty :
    let start := fun delay : Int => State.fresh
      ⟨ExecutorSettings.defaultUrl, .int 30, .int 2, .int delay⟩ ⟨"data-oid", .int 0⟩
    (∃ pauses t, Rounds (start 2) [noListener, noListener] pauses t ∧
      ∀ pause ∈ pauses, ∃ v : ℚ, pause.toRat? = some v ∧ v ≤ 10) ∧
    ∃ pauses t, Rounds (start 30) [noListener, noListener] pauses t ∧
      pauses.map Number.toRat? = [some 30, some 10] := by
  intro start
  have hrounds : ∀ delay : Int, (Number.int delay).exceedsDoubles = false →
      ∃ pauses t, Rounds (start delay) [noListener, noListener] pauses t := fun delay hfits =>
    exists_rounds rfl hfits (bears_of_isMendable rfl (by decide))
      (show Lasts 2 [noListener, noListener] by decide)
  constructor
  · obtain ⟨pauses, t, h⟩ := hrounds 2 rfl
    obtain ⟨values, hvalues, _, hcapped, _⟩ := pauses_capped_behind_first rfl (by norm_num) h
    refine ⟨pauses, t, h, fun pause hpause => ?_⟩
    have hmem : pause.toRat? ∈ values.map some := hvalues ▸ List.mem_map_of_mem hpause
    obtain ⟨v, hv, hvalue⟩ := List.mem_map.mp hmem
    exact ⟨v, hvalue.symm, (hcapped (by norm_num)).1 v hv⟩
  · obtain ⟨pauses, t, h⟩ := hrounds 30 rfl
    obtain ⟨values, hvalues, hfirst, _, hcut⟩ := pauses_capped_behind_first rfl (by norm_num) h
    refine ⟨pauses, t, h, ?_⟩
    have hlength : values.length = 2 := by
      have hpauses := congrArg List.length hvalues
      rw [List.length_map, List.length_map, h.length] at hpauses
      exact hpauses.symm
    obtain ⟨v, w, rfl⟩ := List.length_eq_two.mp hlength
    have hretry : ¬ StartsOver [noListener, noListener] 1 := by
      rintro (h | ⟨script, h⟩) <;> cases h
    have hv : v = 30 := hfirst 0 v rfl (Or.inl rfl)
    have hw : w = 10 := hcut (by norm_num) 1 w rfl hretry
    rw [hvalues, hv, hw]
    rfl

/-- A run that is to wait for thirty seconds does so, and for ten seconds after that. -/
theorem first_pause_uncapped :
    ∃ pauses t, Rounds (.fresh ⟨ExecutorSettings.defaultUrl, .int 30, .int 2, .int 30⟩
        ⟨"data-oid", .int 0⟩) [noListener, noListener] pauses t ∧
      pauses = [.int 30, .real Backoff.maxDelay] ∧
      Backoff.maxDelay < (Number.int 30).toFloat :=
  ⟨_, _, (Rounds.none.next rfl rfl rfl).next rfl rfl rfl, rfl, by decide +kernel⟩

end DesignBridge.Session
