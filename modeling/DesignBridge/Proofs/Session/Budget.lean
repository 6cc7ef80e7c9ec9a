import DesignBridge.Proofs.Session.Rounds
import Mathlib.Data.List.Induction

/-! # The budget of retries

A run makes another attempt behind each outcome until as many retries in a row have failed as its
budget allows for. Then it ends, whatever further attempts would come to. A connection makes up for
all failures before it.
-/

namespace DesignBridge.Session

/-- Whether a run bears some outcomes: no attempt that it comes to goes wrong in a way that no
further attempt can mend. -/
def Bears (s : State) (outcomes : List Attempt) : Prop :=
  ∀ before a, before ++ [a] <+: outcomes → ∀ pauses t, Rounds s before pauses t →
    (attempt t a).2 = none

/-- Whether a budget lasts: behind each of some outcomes fewer retries in a row have failed. -/
def Lasts (budget : Nat) (outcomes : List Attempt) : Prop :=
  ∀ n < outcomes.length, failedRetries (outcomes.take (n + 1)) < budget

instance (budget : Nat) (outcomes : List Attempt) : Decidable (Lasts budget outcomes) :=
  inferInstanceAs (Decidable (∀ n < outcomes.length, _))

section

variable {s : State} {outcomes before : List Attempt} {a : Attempt} {budget : Nat}

theorem Bears.of_append (h : Bears s (before ++ [a])) : Bears s before :=
  fun first b hleads => h first b (hleads.trans (List.prefix_append before [a]))

theorem lasts_concat :
    Lasts budget (before ++ [a]) ↔
      Lasts budget before ∧ failedRetries (before ++ [a]) < budget := by
  unfold Lasts
  rw [List.length_append, List.length_singleton]
  constructor
  · intro h
    refine ⟨fun n hn => ?_, ?_⟩
    · have hlast := h n (by omega)
      rwa [List.take_append_of_le_length hn] at hlast
    · have hlast := h before.length (by omega)
      rwa [List.take_of_length_le (by simp)] at hlast
  · rintro ⟨hbefore, hlast⟩ n hn
    rcases Nat.lt_or_eq_of_le (Nat.le_of_lt_succ hn) with hn | rfl
    · rw [List.take_append_of_le_length hn]
      exact hbefore n hn
    · rwa [List.take_of_length_le (by simp)]

/-- The retries that failed behind an outcome are at most one more than behind the one before. -/
theorem Lasts.failedRetries_concat_le (h : Lasts budget before) (a : Attempt) :
    failedRetries (before ++ [a]) ≤ budget := by
  by_cases hfirst : before = []
  · subst hfirst
    exact Nat.zero_le _
  · have hlast := h (before.length - 1) (by have := List.length_pos_iff.mpr hfirst; omega)
    rw [List.take_of_length_le (by omega)] at hlast
    rw [failedRetries_concat hfirst]
    split <;> omega

end

/-! ## Outcomes that a run bears -/

/-- Whether an attempt is refused in a way that is tried again, or opens a connection all of whose
frames can be answered. -/
def Attempt.isMendable : Attempt → Bool
  | refused refusal => refusal.isRetried
  | opened script => script.frames.all fun (_, frame) => isAnswerable frame

theorem attempt_eq_none {s : State}
    (hinterval : s.settings.heartbeatInterval.exceedsDoubles = false)
    {a : Attempt} (h : a.isMendable = true) : (attempt s a).2 = none := by
  unfold attempt
  cases a with
  | refused refusal =>
      have hretried : refusal.isRetried = true := h
      dsimp only
      rw [if_pos hretried]
  | opened script =>
      have hframes : ∀ frame ∈ script.frames.map Prod.snd, isAnswerable frame = true := by
        intro frame hframe
        obtain ⟨⟨delay, frame⟩, hmem, rfl⟩ := List.mem_map.mp hframe
        exact List.all_eq_true.mp h _ hmem
      have hfits :
          ¬ (s.emit (.connecting s.settings.url)).settings.heartbeatInterval.exceedsDoubles :=
        Bool.eq_false_iff.mp hinterval
      dsimp only
      split
      next _ mid wire _ =>
        dsimp only
        rw [if_neg hfits]
        obtain ⟨replies, hserved⟩ := serve_served script.endAfter script.frames mid wire
        cases hcrash : (serve script.endAfter script.frames mid wire).2 with
        | none => rfl
        | some crash =>
            obtain ⟨_, frame, hframe, hlabel, _⟩ := hserved.fault crash hcrash
            rw [hframes frame (List.mem_of_getElem? hframe)] at hlabel
            cases hlabel
      next => rfl

theorem bears_of_isMendable {s : State} {outcomes : List Attempt}
    (hinterval : s.settings.heartbeatInterval.exceedsDoubles = false)
    (h : ∀ a ∈ outcomes, a.isMendable = true) : Bears s outcomes := by
  intro before a hleads pauses t hrounds
  have ha : a ∈ outcomes := hleads.subset (by simp)
  exact attempt_eq_none (by rw [hrounds.settings]; exact hinterval) (h a ha)

/-! ## While the budget lasts -/

section

variable {s : State} {initial : Number} {budget : Nat}

theorem isSpent_waiting (initial : Number) (budget n : Nat) :
    (waiting initial (.int budget) n).isSpent = decide (budget ≤ n) := by
  unfold waiting Backoff.isSpent Number.le
  simp

/-- How an attempt ends that a run bears. -/
theorem Bears.ended {before : List Attempt} {a : Attempt} {pauses : List Number} {t : State}
    (h : Bears s (before ++ [a])) (hs : s.backoff = .fresh initial (.int budget))
    (hrounds : Rounds s before pauses t) :
    ∃ ended, attempt t a = (ended, none) ∧ ended.connects = before.length + s.connects + 1 ∧
      ended.backoff = waiting initial (.int budget) (failedRetries (before ++ [a])) := by
  have hends : attempt t a = ((attempt t a).1, none) :=
    Prod.ext rfl (h before a List.prefix_rfl pauses t hrounds)
  obtain ⟨_, hbackoff, hconnects⟩ := attempt_spec hends
  refine ⟨_, hends, ?_, hbackoff.trans (Rounds.backoff_concat (hrounds.backoff hs) a)⟩
  rw [hconnects, hrounds.connects, Nat.add_comm before.length]

/-- As long as the budget lasts, each outcome has a pause and a further attempt behind it. -/
theorem exists_rounds (hs : s.backoff = .fresh initial (.int budget))
    (hfits : initial.exceedsDoubles = false) {outcomes : List Attempt} (hbears : Bears s outcomes)
    (hlasts : Lasts budget outcomes) : ∃ pauses t, Rounds s outcomes pauses t := by
  induction outcomes using List.reverseRecOn with
  | nil => exact ⟨[], s, .none⟩
  | append_singleton before a ih =>
      obtain ⟨hbefore, hlast⟩ := lasts_concat.mp hlasts
      obtain ⟨pauses, t, hrounds⟩ := ih hbears.of_append hbefore
      obtain ⟨ended, hends, _, hbackoff⟩ := hbears.ended hs hrounds
      refine ⟨_, _, hrounds.next hends (backOff_eq_ok_iff.mpr ⟨?_, ?_, rfl⟩) rfl⟩
      · rw [hbackoff, isSpent_waiting, decide_eq_false_iff_not]
        omega
      · rw [hbackoff]
        exact exceedsDoubles_iterate_grow hfits _

/-- The attempt behind which the budget is used up is the last one. -/
theorem run_of_not_lasts (hs : s.backoff = .fresh initial (.int budget))
    (hfits : initial.exceedsDoubles = false) {before : List Attempt} {a : Attempt}
    (hbears : Bears s (before ++ [a])) (hbefore : Lasts budget before)
    (hspent : ¬ Lasts budget (before ++ [a])) :
    ∃ ended, ended.connects = before.length + s.connects + 1 ∧
      ∀ rest, run (before ++ a :: rest) s = (ended, none) := by
  have hlast : budget ≤ failedRetries (before ++ [a]) := by
    by_contra hlast
    exact hspent (lasts_concat.mpr ⟨hbefore, by omega⟩)
  obtain ⟨pauses, t, hrounds⟩ := exists_rounds hs hfits hbears.of_append hbefore
  obtain ⟨ended, hends, hconnects, hbackoff⟩ := hbears.ended hs hrounds
  refine ⟨ended, hconnects, fun rest => ?_⟩
  have hnone : backOff ended = .error (ended, none) := by
    apply backOff_of_isSpent
    rw [hbackoff, isSpent_waiting, decide_eq_true_iff]
    exact hlast
  rw [hrounds.run_append]
  simp only [run, hends, hnone]

end

/-- A run makes a further attempt behind each outcome, after a pause, until as many retries in a row
have failed as its budget allows for; behind that outcome it ends, and never behind another. The
pause behind the first attempt, and behind a connection, is the initial one. The outcomes may be
the beginning of a sequence that goes on in any way. -/
theorem retries_until_budget_spent {settings : ExecutorSettings} {interpreter : Interpreter}
    {budget : Nat} (hbudget : settings.maxReconnects = .int budget)
    (hfits : settings.reconnectDelay.exceedsDoubles = false) {outcomes : List Attempt}
    (hbears : Bears (State.fresh settings interpreter) outcomes) :
    (Lasts budget outcomes → ∃ pauses t,
      Rounds (State.fresh settings interpreter) outcomes pauses t ∧
      pauses.length = outcomes.length ∧ t.connects = outcomes.length ∧
      (∀ n pause, pauses[n]? = some pause →
        StartsOver outcomes n → pause = settings.reconnectDelay) ∧
      ∀ rest, run (outcomes ++ rest) (State.fresh settings interpreter) = run rest t) ∧
    (∀ before a, outcomes = before ++ [a] → Lasts budget before → ¬ Lasts budget outcomes →
      failedRetries outcomes = budget ∧ ∃ ended, ended.connects = outcomes.length ∧
        ∀ rest, run (outcomes ++ rest) (State.fresh settings interpreter) = (ended, none)) := by
  have hs : (State.fresh settings interpreter).backoff =
      .fresh settings.reconnectDelay (.int budget) := by
    rw [← hbudget]
    rfl
  constructor
  · intro hlasts
    obtain ⟨pauses, t, hrounds⟩ := exists_rounds hs hfits hbears hlasts
    refine ⟨pauses, t, hrounds, hrounds.length, ?_, ?_, hrounds.run_append⟩
    · exact hrounds.connects.trans (Nat.zero_add _)
    · intro n pause hpause hover
      rw [(hrounds.pause_eq hs hpause).2, hover.failedRetries_eq_zero]
      rfl
  · rintro before a rfl hbefore hspent
    obtain ⟨ended, hconnects, hrun⟩ := run_of_not_lasts hs hfits hbears hbefore hspent
    refine ⟨?_, ended, hconnects.trans ?_, fun rest => ?_⟩
    · have hlast : ¬ failedRetries (before ++ [a]) < budget :=
        fun hlast => hspent (lasts_concat.mpr ⟨hbefore, hlast⟩)
      have hle := hbefore.failedRetries_concat_le a
      omega
    · rw [List.length_append]
      rfl
    · rw [List.append_assoc]
      exact hrun rest

/-- With one retry, a run gets by a failure before a connection, and ends with the first failed
retry behind it. -/
theorem retry_spent_behind_connection :
    let s := State.fresh ⟨ExecutorSettings.defaultUrl, .int 30, .int 1, .real 2⟩
      ⟨"data-oid", .int 0⟩
    let opened := Attempt.opened ⟨[], .int 0, none⟩
    (∃ pauses t, Rounds s [noListener, opened] pauses t ∧ t.connects = 2) ∧
      ∃ ended, ended.connects = 3 ∧
        ∀ rest, run ([noListener, opened, noListener] ++ rest) s = (ended, none) := by
  intro s opened
  have hbears : ∀ outcomes, (∀ a ∈ outcomes, a.isMendable = true) → Bears s outcomes :=
    fun outcomes => bears_of_isMendable rfl
  constructor
  · obtain ⟨pauses, t, hrounds, _, hconnects, _⟩ := (retries_until_budget_spent rfl rfl
      (hbears [noListener, opened] (by decide))).1 (by decide)
    exact ⟨pauses, t, hrounds, hconnects⟩
  · exact ((retries_until_budget_spent rfl rfl
      (hbears [noListener, opened, noListener] (by decide))).2 [noListener, opened] noListener rfl
      (by decide) (by decide)).2

/-! ## When the attempts are used up -/

theorem attempt_noListener (s : State) :
    attempt s noListener = (s.emit (.connecting s.settings.url), none) := rfl

theorem isSpent_iff {budget : Nat} {b : Backoff} (hlimit : b.limit = .int budget) :
    b.isSpent = true ↔ budget ≤ b.attempts := by
  unfold Backoff.isSpent Number.le
  rw [hlimit]
  simp

/-- How many attempts are allowed for does not matter as long as they are more than are left. -/
theorem runRefused_eq {budget : Nat} {s : State} (hlimit : s.backoff.limit = .int budget)
    {fuel fuel' : Nat} (h : budget ≤ fuel + s.backoff.attempts)
    (h' : budget ≤ fuel' + s.backoff.attempts) :
    runRefused (fuel + 1) s = runRefused (fuel' + 1) s := by
  induction fuel generalizing s fuel' with
  | zero =>
      have hspent : (s.emit (.connecting s.settings.url)).backoff.isSpent = true :=
        (isSpent_iff hlimit).mpr (by simpa using h)
      unfold runRefused
      simp only [attempt_noListener, backOff_of_isSpent hspent]
  | succ fuel ih =>
      unfold runRefused
      simp only [attempt_noListener]
      cases hpauses : backOff (s.emit (.connecting s.settings.url)) with
      | error => rfl
      | ok next =>
          obtain ⟨hleft, _, rfl⟩ := backOff_eq_ok_iff.mp hpauses
          have hmore : ¬ budget ≤ s.backoff.attempts := fun hspent =>
            Bool.eq_false_iff.mp hleft ((isSpent_iff hlimit).mpr hspent)
          obtain ⟨k, rfl⟩ := Nat.exists_eq_add_one.mpr (show 0 < fuel' by omega)
          refine ih ?_ ?_ ?_
          · exact hlimit
          · exact (show budget ≤ fuel + (s.backoff.attempts + 1) by omega)
          · exact (show budget ≤ k + (s.backoff.attempts + 1) by omega)

theorem attemptsWithin_int (budget : Nat) : attemptsWithin (.int budget) = budget + 1 := by
  have hceil : ((budget : Int) : Rat).ceil = budget := Rat.ceil_intCast _
  unfold attemptsWithin Number.toRat?
  rw [Option.map_some, hceil]
  rfl

/-- A run whose attempts are used up makes further attempts that are refused. -/
theorem run_concat_noListener {budget : Nat} {s : State} (hlimit : s.backoff.limit = .int budget)
    (outcomes : List Attempt) : run (outcomes ++ [noListener]) s = run outcomes s := by
  induction outcomes generalizing s with
  | nil =>
      have hmore : runRefused (budget + 1) s = runRefused (budget + 1 + 1) s :=
        runRefused_eq hlimit (by omega) (by omega)
      simp only [List.nil_append, run, attempt_noListener, hlimit, attemptsWithin_int, hmore]
      conv_rhs => unfold runRefused
      simp only [attempt_noListener]
      cases hpauses : backOff (s.emit (.connecting s.settings.url)) with
      | error => rfl
      | ok next =>
          obtain ⟨_, _, rfl⟩ := backOff_eq_ok_iff.mp hpauses
          have hnext : (paused s.backoff).limit = .int budget := hlimit
          dsimp only [State.emit]
          rw [hnext, attemptsWithin_int]
  | cons a rest ih =>
      simp only [List.cons_append, run]
      cases hends : attempt s a with
      | mk ended crash =>
          cases crash with
          | some crash => rfl
          | none =>
              cases hpauses : backOff ended with
              | error => simp only [hpauses]
              | ok next =>
                  simp only [hpauses]
                  obtain ⟨_, _, rfl⟩ := backOff_eq_ok_iff.mp hpauses
                  obtain ⟨_, hbackoff, _⟩ := attempt_spec hends
                  refine ih ?_
                  dsimp only [paused]
                  rw [hbackoff]
                  unfold Attempt.backoff
                  split <;> exact hlimit

end DesignBridge.Session
