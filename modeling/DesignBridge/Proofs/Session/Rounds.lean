import DesignBridge.Proofs.Session.Serving
import Mathlib.Logic.Function.Iterate

/-! # The rounds of a run

A run makes attempts one after the other and pauses between them. A round is an attempt with the
pause behind it. The rounds of a run are the same whatever the attempts behind them come to, and
what is waited for depends on nothing but which attempts were refused.
-/

namespace DesignBridge.Session

/-! ## While no attempt is made -/

def Event.isConnecting : Event → Bool
  | connecting _ => true
  | _ => false

namespace State

/-- How many attempts were made so far. -/
def connects (s : State) : Nat :=
  s.events.countP fun (_, event) => event.isConnecting

theorem connects_emit (s : State) (event : Event) :
    (s.emit event).connects = s.connects + event.isConnecting.toNat := by
  unfold connects emit
  rw [List.countP_append]
  cases h : event.isConnecting <;> simp [h]

/-- A state that comes of another while no attempt is made. -/
structure Stays (s after : State) : Prop where
  settings : after.settings = s.settings
  backoff : after.backoff = s.backoff
  connects : after.connects = s.connects

theorem Stays.refl (s : State) : s.Stays s := ⟨rfl, rfl, rfl⟩

theorem Stays.trans {s mid after : State} (h : s.Stays mid) (h' : mid.Stays after) :
    s.Stays after :=
  ⟨h'.settings.trans h.settings, h'.backoff.trans h.backoff, h'.connects.trans h.connects⟩

theorem Stays.emit {s after : State} (h : s.Stays after) {event : Event}
    (hevent : event.isConnecting = false) : s.Stays (after.emit event) :=
  ⟨h.settings, h.backoff, by rw [connects_emit, hevent]; exact h.connects⟩

end State

theorem send_stays (s : State) (wire : Wire) (payload : String) :
    s.Stays (send s wire payload).1 := by
  obtain ⟨_, hsend, _⟩ | ⟨hsend, _⟩ := send_cases s wire payload
  · rw [hsend]
    exact (State.Stays.refl s).emit rfl
  · rw [hsend]
    exact (State.Stays.refl s).emit rfl

theorem beatUntil_stays (until_ : Float) (fuel : Nat) (s : State) (wire : Wire) :
    s.Stays (beatUntil until_ fuel s wire).1 := by
  induction fuel generalizing s wire with
  | zero => exact .refl s
  | succ fuel ih =>
      unfold beatUntil
      split
      next => exact .refl s
      next t _ =>
        have hlater : s.Stays { s with now := t } := ⟨rfl, rfl, rfl⟩
        exact (hlater.trans (send_stays _ wire heartbeat)).trans (ih _ _)

theorem passTo_stays (t : Float) (s : State) (wire : Wire) : s.Stays (passTo t s wire).1 := by
  unfold passTo
  exact (beatUntil_stays t _ s wire).trans ⟨rfl, rfl, rfl⟩

theorem serve_stays (endAfter : Number) (frames : List (Number × String)) (s : State)
    (wire : Wire) : s.Stays (serve endAfter frames s wire).1 := by
  induction frames generalizing s wire with
  | nil => exact (passTo_stays _ s wire).emit rfl
  | cons first rest ih =>
      obtain ⟨delay, frame⟩ := first
      unfold serve
      have hpassed := passTo_stays (after s.now delay) s wire
      generalize passTo (after s.now delay) s wire = passed at hpassed
      obtain ⟨mid, wire'⟩ := passed
      dsimp only at hpassed ⊢
      have hanswered :
          s.Stays { mid with document := (answer mid.interpreter mid.document frame).1 } :=
        hpassed.trans ⟨rfl, rfl, rfl⟩
      split
      next => exact hanswered.emit rfl
      next reply _ =>
        have hsent := hanswered.trans (send_stays _ wire' reply.write)
        split
        next hsend =>
          rw [hsend] at hsent
          exact hsent.trans (ih _ _)
        next hsend =>
          rw [hsend] at hsent
          exact hsent.emit rfl

/-! ## An attempt -/

namespace Attempt

def isRefused : Attempt → Bool
  | refused _ => true
  | opened _ => false

/-- The state of waiting behind an attempt, from the one before it. -/
def backoff (a : Attempt) (b : Backoff) : Backoff :=
  if a.isRefused then b else b.reset

end Attempt

/-- The state as soon as it is known what an attempt comes to. -/
def begin (s : State) (a : Attempt) : State :=
  { s.emit (.connecting s.settings.url) with backoff := a.backoff s.backoff }

theorem attempt_stays (s : State) (a : Attempt) : (begin s a).Stays (attempt s a).1 := by
  unfold attempt
  cases a with
  | refused refusal => exact ⟨rfl, rfl, rfl⟩
  | opened script =>
      dsimp only
      have hsent : ∀ {sent mid wire}, send (begin s (.opened script))
          ⟨script.sendLimit, some (after s.now s.settings.heartbeatInterval)⟩ heartbeat =
            (mid, wire, sent) → (begin s (.opened script)).Stays mid := by
        intro sent mid wire hsend
        have hstays := send_stays (begin s (.opened script))
          ⟨script.sendLimit, some (after s.now s.settings.heartbeatInterval)⟩ heartbeat
        rwa [hsend] at hstays
      split
      next hsend => exact (hsent hsend).trans (serve_stays _ _ _ _)
      next hsend => exact (hsent hsend).emit rfl

theorem attempt_spec {s ended : State} {a : Attempt} {crash : Option Crash}
    (h : attempt s a = (ended, crash)) :
    ended.settings = s.settings ∧ ended.backoff = a.backoff s.backoff ∧
      ended.connects = s.connects + 1 := by
  have hstays := attempt_stays s a
  rw [h] at hstays
  exact ⟨hstays.settings, hstays.backoff, hstays.connects.trans (s.connects_emit _)⟩

/-! ## A pause -/

/-- The state of waiting after a pause. -/
def paused (b : Backoff) : Backoff :=
  { b with delay := Backoff.grow b.delay, attempts := b.attempts + 1 }

section

variable {s next : State}

theorem backOff_of_isSpent (h : s.backoff.isSpent = true) : backOff s = .error (s, none) := by
  unfold backOff Backoff.next?
  rw [if_pos h]

theorem backOff_of_not_isSpent (h : s.backoff.isSpent = false) :
    backOff s = if s.backoff.delay.exceedsDoubles then
        .error ({ s with backoff := { paused s.backoff with delay := s.backoff.delay } },
          some .overlong)
      else
        .ok { s with now := after s.now s.backoff.delay, backoff := paused s.backoff } := by
  unfold backOff Backoff.next?
  rw [if_neg (Bool.eq_false_iff.mp h)]
  rfl

theorem backOff_eq_ok_iff : backOff s = .ok next ↔
    s.backoff.isSpent = false ∧ s.backoff.delay.exceedsDoubles = false ∧
      next = { s with now := after s.now s.backoff.delay, backoff := paused s.backoff } := by
  constructor
  · intro h
    cases hspent : s.backoff.isSpent with
    | true =>
        rw [backOff_of_isSpent hspent] at h
        cases h
    | false =>
        rw [backOff_of_not_isSpent hspent] at h
        split at h
        next => cases h
        next hfits => exact ⟨rfl, Bool.eq_false_iff.mpr hfits, (Except.ok.inj h).symm⟩
  · rintro ⟨hspent, hfits, rfl⟩
    rw [backOff_of_not_isSpent hspent, hfits]
    rfl

end

/-! ## A round -/

/-- The rounds that a run makes from a state on: the attempts, the pauses behind them, by which the
time goes on, and the state in which the next attempt is made. -/
inductive Rounds (s : State) : List Attempt → List Number → State → Prop
  | none : Rounds s [] [] s
  | next {outcomes : List Attempt} {pauses : List Number} {t ended resumed : State} {a : Attempt}
      (before : Rounds s outcomes pauses t) (hends : attempt t a = (ended, .none))
      (hpauses : backOff ended = .ok resumed)
      (hnow : resumed.now = after ended.now ended.backoff.delay) :
      Rounds s (outcomes ++ [a]) (pauses ++ [ended.backoff.delay]) resumed

namespace Rounds

variable {s t : State} {outcomes : List Attempt} {pauses : List Number}

theorem length (h : Rounds s outcomes pauses t) : pauses.length = outcomes.length := by
  induction h with
  | none => rfl
  | next _ _ _ _ ih => simp [ih]

theorem settings (h : Rounds s outcomes pauses t) : t.settings = s.settings := by
  induction h with
  | none => rfl
  | next before hends hpauses _ ih =>
      obtain ⟨_, _, rfl⟩ := backOff_eq_ok_iff.mp hpauses
      exact (attempt_spec hends).1.trans ih

theorem connects (h : Rounds s outcomes pauses t) :
    t.connects = s.connects + outcomes.length := by
  induction h with
  | none => rfl
  | next before hends hpauses _ ih =>
      obtain ⟨_, _, rfl⟩ := backOff_eq_ok_iff.mp hpauses
      obtain ⟨_, _, hconnects⟩ := attempt_spec hends
      rw [List.length_append, List.length_singleton, ← Nat.add_assoc, ← ih]
      exact hconnects

/-- What a run makes of rounds that it made does not depend on what comes behind them. -/
theorem run_append (h : Rounds s outcomes pauses t) (rest : List Attempt) :
    run (outcomes ++ rest) s = run rest t := by
  induction h generalizing rest with
  | none => rfl
  | next before hends hpauses _ ih =>
      rw [List.append_assoc, ih]
      simp only [List.singleton_append, run, hends, hpauses]

end Rounds

/-! ## Retries -/

/-- How many retries in a row failed: the attempts that were refused since the last connection, or
since the first attempt, which is no retry. -/
def failedRetries (outcomes : List Attempt) : Nat :=
  (outcomes.tail.reverse.takeWhile Attempt.isRefused).length

theorem failedRetries_concat {outcomes : List Attempt} (h : outcomes ≠ []) (a : Attempt) :
    failedRetries (outcomes ++ [a]) = if a.isRefused then failedRetries outcomes + 1 else 0 := by
  unfold failedRetries
  rw [List.tail_append_of_ne_nil h, List.reverse_append, List.reverse_singleton,
    List.singleton_append, List.takeWhile_cons]
  split
  next => rfl
  next => rfl

/-- Whether an outcome is that of the first attempt, or a connection. -/
def StartsOver (outcomes : List Attempt) (n : Nat) : Prop :=
  n = 0 ∨ ∃ script, outcomes[n]? = some (.opened script)

/-- Behind the first attempt and behind a connection no retry has failed yet. -/
theorem StartsOver.failedRetries_eq_zero {outcomes : List Attempt} {n : Nat}
    (h : StartsOver outcomes n) : failedRetries (outcomes.take (n + 1)) = 0 := by
  obtain rfl | ⟨script, hscript⟩ := h
  · cases outcomes <;> rfl
  · rw [List.take_add_one, hscript]
    by_cases hfirst : outcomes.take n = []
    · rw [hfirst]
      rfl
    · exact failedRetries_concat hfirst (.opened script)

/-- Behind any other outcome one more retry has failed. -/
theorem failedRetries_take_succ {outcomes : List Attempt} {n : Nat} (hn : n + 1 < outcomes.length)
    (h : ¬ StartsOver outcomes (n + 1)) :
    failedRetries (outcomes.take (n + 1 + 1)) = failedRetries (outcomes.take (n + 1)) + 1 := by
  have hfirst : outcomes.take (n + 1) ≠ [] := by
    rw [Ne, List.take_eq_nil_iff]
    rintro (hzero | rfl)
    · cases hzero
    · cases hn
  rw [List.take_add_one, List.getElem?_eq_getElem hn, Option.toList_some,
    failedRetries_concat hfirst]
  cases ha : outcomes[n + 1] with
  | refused refusal => rfl
  | opened script =>
      exact absurd (Or.inr ⟨script, by rw [List.getElem?_eq_getElem hn, ha]⟩) h

theorem exceedsDoubles_iterate_grow {initial : Number} (h : initial.exceedsDoubles = false)
    (n : Nat) : (Backoff.grow^[n] initial).exceedsDoubles = false := by
  cases n with
  | zero => exact h
  | succ n =>
      rw [Function.iterate_succ_apply']
      rfl

/-- The state of waiting after a number of pauses in a row. -/
def waiting (initial limit : Number) (n : Nat) : Backoff :=
  ⟨initial, Backoff.grow^[n] initial, n, limit⟩

section

variable (initial limit : Number) (n : Nat)

theorem reset_waiting : (waiting initial limit n).reset = waiting initial limit 0 := rfl

theorem paused_waiting : paused (waiting initial limit n) = waiting initial limit (n + 1) := by
  unfold paused waiting
  rw [Function.iterate_succ_apply']

end

namespace Rounds

variable {s t : State} {outcomes : List Attempt} {pauses : List Number} {initial limit : Number}

/-- What is waited for behind an attempt depends on the retries that failed. -/
theorem backoff_concat (ht : t.backoff = waiting initial limit
      (if outcomes = [] then 0 else failedRetries outcomes + 1)) (a : Attempt) :
    a.backoff t.backoff = waiting initial limit (failedRetries (outcomes ++ [a])) := by
  unfold Attempt.backoff
  rw [ht, reset_waiting]
  by_cases hfirst : outcomes = []
  · subst hfirst
    rw [if_pos rfl, ite_self]
    rfl
  · rw [failedRetries_concat hfirst, if_neg hfirst]
    split <;> rfl

theorem backoff (h : Rounds s outcomes pauses t) (hs : s.backoff = .fresh initial limit) :
    t.backoff =
      waiting initial limit (if outcomes = [] then 0 else failedRetries outcomes + 1) := by
  induction h with
  | none => exact hs
  | @next outcomes pauses t ended resumed a before hends hpauses _ ih =>
      obtain ⟨_, _, rfl⟩ := backOff_eq_ok_iff.mp hpauses
      obtain ⟨_, hended, _⟩ := attempt_spec hends
      dsimp only
      rw [hended, backoff_concat ih, paused_waiting, if_neg (by simp)]

/-- The pauses of a run. -/
theorem pauses_eq (h : Rounds s outcomes pauses t) (hs : s.backoff = .fresh initial limit) :
    pauses = (List.range outcomes.length).map fun n =>
      Backoff.grow^[failedRetries (outcomes.take (n + 1))] initial := by
  induction h with
  | none => rfl
  | @next outcomes pauses t ended resumed a before hends hpauses _ ih =>
      obtain ⟨_, hended, _⟩ := attempt_spec hends
      rw [List.length_append, List.length_singleton, List.range_succ, List.map_append]
      congr 1
      · rw [ih]
        apply List.map_congr_left
        intro n hn
        rw [List.take_append_of_le_length (Nat.succ_le_of_lt (List.mem_range.mp hn))]
      · rw [hended, backoff_concat (before.backoff hs), List.map_singleton,
          List.take_of_length_le (by simp)]
        rfl

theorem pause_fits (h : Rounds s outcomes pauses t) :
    ∀ pause ∈ pauses, pause.exceedsDoubles = false := by
  induction h with
  | none => intro pause hpause; cases hpause
  | next before hends hpauses _ ih =>
      intro pause hpause
      rcases List.mem_append.mp hpause with hpause | hpause
      · exact ih pause hpause
      · rw [List.mem_singleton.mp hpause]
        exact (backOff_eq_ok_iff.mp hpauses).2.1

theorem getElem?_map_range {α : Type} (f : Nat → α) (k n : Nat) {v : α} :
    ((List.range k).map f)[n]? = some v ↔ n < k ∧ f n = v := by
  rw [List.getElem?_map]
  by_cases hn : n < k
  · rw [List.getElem?_range hn, Option.map_some, Option.some.injEq, and_iff_right hn]
  · rw [List.getElem?_eq_none (by simpa using hn)]
    simp [hn]

theorem pause_eq (h : Rounds s outcomes pauses t) (hs : s.backoff = .fresh initial limit) {n : Nat}
    {pause : Number} (hpause : pauses[n]? = some pause) :
    n < outcomes.length ∧
      pause = Backoff.grow^[failedRetries (outcomes.take (n + 1))] initial := by
  rw [h.pauses_eq hs, getElem?_map_range] at hpause
  exact ⟨hpause.1, hpause.2.symm⟩

end Rounds

end DesignBridge.Session
