import DesignBridge.Proofs.Relay.Port
import DesignBridge.Relay.Run

/-! # What is left to do

While the clock stands still a submission goes through its phases in one direction only, and whoever
takes a step lets one other go on at most. So each step leaves less to do, and everyone who can go
on has done so within the turns that are counted for it.
-/

namespace DesignBridge

/-- How many steps a submission can still take while the clock stands still. -/
def Phase.stepsLeft : Phase → Nat
  | fresh => 4
  | queued => 3
  | sending .. => 2
  | awaiting .. => 1
  | finished _ => 0

theorem Phase.stepsLeft_le (phase : Phase) : phase.stepsLeft ≤ 4 := by
  cases phase <;> simp [stepsLeft]

/-- How many steps submissions can still take, all together. -/
def Submission.allStepsLeft : List Submission → Nat
  | [] => 0
  | s :: rest => s.phase.stepsLeft + allStepsLeft rest

theorem Submission.allStepsLeft_le (submissions : List Submission) :
    allStepsLeft submissions ≤ 4 * submissions.length := by
  induction submissions with
  | nil => exact Nat.le_refl _
  | cons s rest ih =>
      have hfirst := s.phase.stepsLeft_le
      rw [allStepsLeft, List.length_cons]
      omega

theorem Submission.allStepsLeft_modify {submissions : List Submission} {i : Nat} {s : Submission}
    (hs : submissions[i]? = some s) (f : Submission → Submission) :
    allStepsLeft (submissions.modify i f) + s.phase.stepsLeft =
      allStepsLeft submissions + (f s).phase.stepsLeft := by
  induction submissions generalizing i with
  | nil => simp at hs
  | cons t rest ih =>
      cases i with
      | zero =>
          obtain rfl : t = s := by simpa using hs
          rw [List.modify_zero_cons, allStepsLeft, allStepsLeft]
          omega
      | succ i =>
          have hrest := ih (i := i) (by simpa using hs)
          rw [List.modify_succ_cons, allStepsLeft, allStepsLeft]
          omega

namespace World

/-- An upper bound on the steps that are taken while the clock stands still. Whoever can go on
counts once more, since it may find nothing to do. -/
def work (w : World) : Nat :=
  w.ready.length + Submission.allStepsLeft w.submissions

section

variable {mint : Nat → String} {w : World} {i : Nat} {s : Submission}

theorem work_wake_le (w : World) (i : Nat) : (w.wake i).work ≤ w.work + 1 := by
  unfold wake
  split
  next => exact Nat.le_succ _
  next =>
    simp only [work, List.length_append, List.length_singleton]
    omega

theorem work_wake?_le (w : World) (who : Option Nat) : (w.wake? who).work ≤ w.work + 1 := by
  cases who with
  | none => exact Nat.le_succ _
  | some i => exact work_wake_le w i

@[simp] theorem work_modifyPort (w : World) (c : Nat) (f : Port → Port) :
    (w.modifyPort c f).work = w.work := rfl

@[simp] theorem work_modifyConnection (w : World) (c : Nat) (f : Connection → Connection) :
    (w.modifyConnection c f).work = w.work := rfl

@[simp] theorem work_emit (w : World) (event : RelayEvent) : (w.emit event).work = w.work := rfl

theorem work_modifySubmission (hs : w.submissions[i]? = some s) (f : Submission → Submission) :
    (w.modifySubmission i f).work + s.phase.stepsLeft = w.work + (f s).phase.stepsLeft := by
  have hmodify := Submission.allStepsLeft_modify hs f
  simp only [work, modifySubmission]
  omega

theorem work_finish (hs : w.submissions[i]? = some s) (outcome : Outcome) :
    (w.finish i outcome).work + s.phase.stepsLeft = w.work :=
  work_modifySubmission hs fun s => { s with phase := .finished outcome }

theorem work_leave_le (hs : w.submissions[i]? = some s) (c : Nat) (outcome : Outcome) :
    (w.leave i c outcome).work + s.phase.stepsLeft ≤ w.work + 1 := by
  unfold leave
  split
  next => exact Nat.le_succ_of_le (Nat.le_of_eq (work_finish hs outcome))
  next port _ =>
    have hwake := work_wake?_le
      ((w.modifyPort c ({ · with gate := port.gate.leave.1 })).finish i outcome) port.gate.leave.2
    have hfinish : ((w.modifyPort c ({ · with gate := port.gate.leave.1 })).finish i outcome).work +
        s.phase.stepsLeft = w.work := work_finish hs outcome
    exact Nat.le_trans (Nat.add_le_add_right hwake _) (by omega)

theorem work_endExchange_le (hs : w.submissions[i]? = some s) (c waiter : Nat)
    (outcome : Outcome) :
    (w.endExchange i c waiter outcome).work + s.phase.stepsLeft ≤ w.work + 1 :=
  work_leave_le (w := w.modifyConnection c (·.clear waiter)) hs c outcome

theorem work_loseConnection_le (hs : w.submissions[i]? = some s) (c waiter : Nat)
    (reason : String) :
    (w.loseConnection i c waiter reason).work + s.phase.stepsLeft ≤ w.work + 1 :=
  work_endExchange_le (w := (w.unregister c).1) hs c waiter _

/-- Whoever begins to wait has one step left, and takes it at once only when its reply is there. -/
theorem work_await_le (hs : w.submissions[i]? = some s) (c : Nat) (deadline : Option Time)
    (waiter : Nat) :
    (w.await i c deadline waiter).work + s.phase.stepsLeft ≤ w.work + 2 ∧
      ∀ port, w.ports[c]? = some port → port.connection.isArmed waiter = true →
        (w.await i c deadline waiter).work + s.phase.stepsLeft ≤ w.work + 1 := by
  have hset : (w.setPhase i (.awaiting deadline waiter)).work + s.phase.stepsLeft = w.work + 1 :=
    work_modifySubmission hs fun s => { s with phase := .awaiting deadline waiter }
  have hports : (w.setPhase i (.awaiting deadline waiter)).ports = w.ports := rfl
  unfold await
  split
  next =>
    have hended := work_endExchange_le hs c waiter .timedOut
    exact ⟨Nat.le_succ_of_le hended, fun _ _ _ => hended⟩
  next =>
    simp only [hports]
    cases hport : w.ports[c]? with
    | none => exact ⟨Nat.le_succ_of_le (Nat.le_of_eq hset), fun _ h => by cases h⟩
    | some port =>
        dsimp only
        split
        next => exact ⟨Nat.le_succ_of_le (Nat.le_of_eq hset), fun _ _ _ => Nat.le_of_eq hset⟩
        next hunarmed =>
          have hwake := work_wake_le (w.setPhase i (.awaiting deadline waiter)) i
          refine ⟨by omega, fun port' hport' harmed => ?_⟩
          obtain rfl := Option.some.inj hport'
          exact absurd harmed hunarmed

theorem work_send_le (hs : w.submissions[i]? = some s) (c : Nat) (deadline : Option Time)
    (waiter : Nat) (port : Port) (payload : String) :
    (w.send i c deadline waiter port payload).work + s.phase.stepsLeft ≤ w.work + 2 := by
  unfold send
  split
  next => exact Nat.le_succ_of_le (work_loseConnection_le hs c waiter _)
  next =>
    split
    next => exact (work_await_le (w := w.emit (.sent c payload)) hs c deadline waiter).1
    next =>
      exact Nat.le_of_eq
        (work_modifySubmission hs fun s => { s with phase := .sending deadline waiter })
    next reason _ =>
      exact Nat.le_succ_of_le
        (work_loseConnection_le (w := w.emit (.sendFailed c)) hs c waiter reason)

/-- Whoever comes through the gate has two steps left at most. -/
theorem work_enter_le {t : Submission} (hs : w.submissions[i]? = some s) (c : Nat) :
    (w.enter i c t).work + s.phase.stepsLeft ≤ w.work + 2 := by
  have hleave : ∀ outcome, (w.leave i c outcome).work + s.phase.stepsLeft ≤ w.work + 2 :=
    fun outcome => Nat.le_succ_of_le (work_leave_le hs c outcome)
  unfold enter exchange
  split
  next => exact hleave _
  next =>
    split
    next => exact hleave _
    next =>
      split
      next => exact hleave _
      next port _ =>
        split
        next => exact hleave _
        next =>
          split
          next => exact hleave _
          next waiter connection _ =>
            exact work_send_le (w := w.modifyConnection c fun _ => connection) hs c _ waiter _ _

/-- Whoever has found its connection goes on or joins the line. -/
theorem work_goToGate_le {t : Submission} (hs : w.submissions[i]? = some s)
    (hphase : s.phase = .queued) (c : Nat) :
    (match w.ports[c]? with
      | none => w.finish i (.noPeer .notConnected)
      | some port =>
        if port.gate.isOpen then
          (w.modifyPort c fun port => { port with gate := port.gate.take }).enter i c t
        else w.modifyPort c fun port => { port with gate := port.gate.join i }).work ≤ w.work := by
  have hleft : s.phase.stepsLeft = 3 := by rw [hphase, Phase.stepsLeft]
  split
  next =>
    have hfinish := work_finish hs (.noPeer .notConnected)
    omega
  next =>
    split
    next =>
      have henter := work_enter_le (t := t)
        (w := w.modifyPort c fun port => { port with gate := port.gate.take }) hs c
      rw [work_modifyPort] at henter
      omega
    next => exact Nat.le_refl _

theorem work_start_le (mint : Nat → String) (hs : w.submissions[i]? = some s)
    (hphase : s.phase = .fresh) : (start mint w i s).work ≤ w.work := by
  have hleft : s.phase.stepsLeft = 4 := by rw [hphase, Phase.stepsLeft]
  -- Once it has settled on a connection, a submission is as good as in line.
  have hsettled : ∀ (v : World) (t : Submission), v.submissions[i]? = some s →
      v.work = w.work → t.phase = .queued →
        (v.modifySubmission i fun _ => t).submissions[i]? = some t ∧
          (v.modifySubmission i fun _ => t).work ≤ w.work := by
    intro v t hv hwork ht
    have hmodify := work_modifySubmission hv fun _ => t
    have hthree : t.phase.stepsLeft = 3 := by rw [ht, Phase.stepsLeft]
    exact ⟨by simp [modifySubmission, hv], by omega⟩
  unfold start
  cases w.current? with
  | none =>
      have hfinish := work_finish hs (.noPeer .notConnected)
      dsimp only
      omega
  | some c =>
      dsimp only
      cases taskId? s.body with
      | some id =>
          dsimp only
          obtain ⟨ht, hwork⟩ := hsettled w
            { s with connection := c, taskId := id, wire := s.body, phase := .queued } hs rfl rfl
          exact Nat.le_trans (work_goToGate_le ht rfl c) hwork
      | none =>
          dsimp only
          obtain ⟨ht, hwork⟩ := hsettled { w with minted := w.minted + 1 }
            { s with
              connection := c
              taskId := .text (mint (w.minted + 1))
              wire := s.body.put "taskId" (.text (mint (w.minted + 1)))
              phase := .queued } hs rfl rfl
          exact Nat.le_trans (work_goToGate_le ht rfl c) hwork

theorem work_takeTurn_le (hs : w.submissions[i]? = some s) (hphase : s.phase = .queued) :
    (w.takeTurn i s).work ≤ w.work := by
  have hleft : s.phase.stepsLeft = 3 := by rw [hphase, Phase.stepsLeft]
  unfold takeTurn
  dsimp only
  cases w.ports[s.connection]? with
  | none => exact Nat.le_refl _
  | some port =>
      dsimp only
      split
      next =>
        have hwake := work_wake?_le ((w.modifyPort s.connection
          ({ · with gate := (port.gate.leaveLine i).1 })).finish i .cancelled)
          (port.gate.leaveLine i).2
        have hfinish := work_finish (w := w.modifyPort s.connection
          ({ · with gate := (port.gate.leaveLine i).1 })) hs .cancelled
        rw [work_modifyPort] at hfinish
        omega
      next =>
        split
        next =>
          have henter := work_enter_le (t := s) (w := w.modifyPort s.connection
            fun port => { port with gate := (port.gate.drop i).take }) hs s.connection
          rw [work_modifyPort] at henter
          omega
        next => exact Nat.le_refl _

theorem work_finishSending_le {deadline : Option Time} {waiter : Nat}
    (hs : w.submissions[i]? = some s) (hphase : s.phase = .sending deadline waiter) :
    (w.finishSending i s deadline waiter).work ≤ w.work := by
  have hleft : s.phase.stepsLeft = 2 := by rw [hphase, Phase.stepsLeft]
  unfold finishSending
  dsimp only
  cases w.ports[s.connection]? with
  | none => exact Nat.le_refl _
  | some port =>
      dsimp only
      split
      next =>
        have hended := work_endExchange_le hs s.connection waiter .cancelled
        omega
      next =>
        split
        next =>
          have hawait := (work_await_le (w := w.emit (.sent s.connection s.payload)) hs
            s.connection deadline waiter).1
          rw [work_emit] at hawait
          omega
        next => exact Nat.le_refl _
        next reason _ =>
          have hlost := work_loseConnection_le (w := w.emit (.sendFailed s.connection)) hs
            s.connection waiter reason
          rw [work_emit] at hlost
          omega

theorem work_takeReply_le {deadline : Option Time} {waiter : Nat} (frame : String)
    (hs : w.submissions[i]? = some s) (hphase : s.phase = .awaiting deadline waiter) :
    (w.takeReply i s deadline waiter frame).work ≤ w.work := by
  have hleft : s.phase.stepsLeft = 1 := by rw [hphase, Phase.stepsLeft]
  have hended : ∀ outcome, (w.endExchange i s.connection waiter outcome).work ≤ w.work := by
    intro outcome
    have hended := work_endExchange_le hs s.connection waiter outcome
    omega
  unfold takeReply
  dsimp only
  cases classify s.taskId frame with
  | invalid | fitting => exact hended _
  | stale =>
      cases hport : w.ports[s.connection]? with
      | none => exact Nat.le_refl _
      | some port =>
          dsimp only
          cases hexpect : port.connection.expect with
          | none => exact hended _
          | some armed =>
              obtain ⟨next, connection⟩ := armed
              have hrevived := work_modifySubmission hs ({ · with cancelled := false })
              -- The waiter is new, so no reply is there yet.
              have hawait := (work_await_le (i := i) (s := { s with cancelled := false })
                (w := (w.modifySubmission i ({ · with cancelled := false })).modifyConnection
                  s.connection fun _ => connection)
                (by simp [modifyConnection, modifyPort, modifySubmission, hs])
                s.connection deadline next).2 { port with connection }
                (by simp [modifyConnection, modifyPort, modifySubmission, hport])
                (Connection.isArmed_iff.mpr (Connection.expect_armed hexpect))
              rw [work_modifyConnection] at hawait
              dsimp only at hawait hrevived ⊢
              omega

theorem work_endWait_le {deadline : Option Time} {waiter : Nat}
    (hs : w.submissions[i]? = some s) (hphase : s.phase = .awaiting deadline waiter) :
    (w.endWait i s deadline waiter).work ≤ w.work := by
  have hleft : s.phase.stepsLeft = 1 := by rw [hphase, Phase.stepsLeft]
  have hended : ∀ outcome, (w.endExchange i s.connection waiter outcome).work ≤ w.work := by
    intro outcome
    have hended := work_endExchange_le hs s.connection waiter outcome
    omega
  unfold endWait
  dsimp only
  cases w.ports[s.connection]? with
  | none => exact Nat.le_refl _
  | some port =>
      dsimp only
      split
      next frame _ => exact work_takeReply_le frame hs hphase
      next =>
        split
        next => exact hended _
        next =>
          split
          next => exact hended _
          next => exact Nat.le_refl _

/-- Whoever takes a step leaves less to do. -/
theorem work_resume_lt (mint : Nat → String) (hready : i ∈ w.ready) :
    (w.resume mint i).work < w.work := by
  have herased : ({ w with ready := w.ready.erase i } : World).work < w.work := by
    have hlength := List.length_erase_of_mem hready
    have hpos := List.length_pos_of_mem hready
    simp only [work]
    omega
  refine Nat.lt_of_le_of_lt ?_ herased
  unfold resume
  dsimp only
  cases hs : w.submissions[i]? with
  | none => exact Nat.le_refl _
  | some s =>
      dsimp only
      cases hphase : s.phase with
      | fresh =>
          dsimp only
          split
          next =>
            have hfinish := work_finish (w := { w with ready := w.ready.erase i }) hs .cancelled
            omega
          next => exact work_start_le mint hs hphase
      | queued => exact work_takeTurn_le hs hphase
      | sending deadline waiter => exact work_finishSending_le hs hphase
      | awaiting deadline waiter => exact work_endWait_le hs hphase
      | finished outcome => exact Nat.le_refl _

/-! ## Going on until no one can -/

/-- Within as many turns as there are steps to take no one is left that can go on. -/
theorem ready_settleWithin {fuel : Nat} (hfuel : w.work < fuel) :
    (settleWithin mint fuel w).ready = [] := by
  induction fuel generalizing w with
  | zero => omega
  | succ fuel ih =>
      unfold settleWithin
      split
      next hempty => exact List.isEmpty_iff.mp hempty
      next hsome =>
        apply ih
        cases hready : w.ready with
        | nil => simp [hready] at hsome
        | cons i rest =>
            have hturn : w.turn mint = w.resume mint i := by simp [turn, hready]
            have hless := work_resume_lt mint (w := w) (i := i) (by simp [hready])
            rw [hturn]
            omega

/-- Letting everyone go on leaves no one that can. -/
theorem ready_settle (mint : Nat → String) (w : World) : (w.settle mint).ready = [] := by
  have hleft := Submission.allStepsLeft_le w.submissions
  apply ready_settleWithin
  simp only [work]
  omega

end

end World

end DesignBridge
