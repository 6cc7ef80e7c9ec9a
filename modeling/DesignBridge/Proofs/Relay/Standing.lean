import DesignBridge.Proofs.Relay.Line

/-! # Who stands in line

Those who stand in line at a gate and have not withdrawn, in order. A newcomer stands behind all
others, and whoever leaves lets the others keep their order.
-/

namespace DesignBridge

namespace Gate

/-- Who stands in line and has not withdrawn, in order. -/
def standing (g : Gate) : List Nat :=
  (g.line.filter (·.2 != .withdrawn)).map Prod.fst

variable {g after : Gate} {who : Nat}

theorem standing_call (g : Gate) : g.call.1.standing = g.standing := by
  unfold call standing
  split
  next first rest hline => simp [hline]
  next => rfl

theorem standing_drop (g : Gate) (who : Nat) :
    (g.drop who).standing = g.standing.filter (· != who) := by
  unfold drop standing
  rw [List.filter_map, List.filter_filter, List.filter_filter]
  refine congrArg _ (List.filter_congr fun place _ => ?_)
  simp [Bool.and_comm]

theorem standing_withdraw (g : Gate) (who : Nat) :
    (g.withdraw who).standing.Sublist g.standing := by
  unfold withdraw standing
  rw [List.filter_map, List.map_map]
  refine List.Sublist.map Prod.fst ?_
  -- A place that is not withdrawn afterwards was not withdrawn before.
  have hkept : ∀ p : Nat × Turn → Bool, (∀ place, p place = true → (place.2 != .withdrawn) = true) →
      (g.line.filter p).Sublist (g.line.filter (·.2 != .withdrawn)) := by
    intro p hp
    have hboth : g.line.filter p = (g.line.filter (·.2 != .withdrawn)).filter p := by
      rw [List.filter_filter]
      refine List.filter_congr fun place _ => ?_
      cases hplace : p place with
      | true => simpa using hp place hplace
      | false => simp
    rw [hboth]
    exact List.filter_sublist
  refine hkept _ fun place hplace => ?_
  simp only [Function.comp_apply] at hplace
  split at hplace
  next => simp at hplace
  next => exact hplace

theorem standing_join (g : Gate) (who : Nat) : (g.join who).standing = g.standing ++ [who] := by
  simp [standing, join]

theorem Passes.standing (h : g.Passes who after) :
    after.standing = g.standing.filter (· != who) := by
  cases h with
  | kept hout => exact (names_of_not_mem hout List.filter_sublist.subset).symm
  | through => exact standing_drop g who
  | freed => exact (standing_call _).trans (standing_drop g who)

/-- At an open gate nobody stands who has not withdrawn. -/
theorem standing_of_isOpen (h : g.isOpen = true) : g.standing = [] := by
  unfold isOpen at h
  rw [Bool.and_eq_true, List.all_eq_true] at h
  unfold standing
  rw [List.map_eq_nil_iff, List.filter_eq_nil_iff]
  intro place hplace
  simpa using h.2 place hplace

/-- Whoever was called is the first who stands. -/
theorem Free.standing (h : g.Free) (hturn : g.turn? who = some .called) :
    ∃ rest, g.standing = who :: rest := by
  obtain ⟨rest, hline⟩ := h.called_first hturn
  exact ⟨(Gate.mk g.held rest).standing, by simp [Gate.standing, hline]⟩

end Gate

namespace World

section

variable {mint : Nat → String} {w : World} {action : RelayAction} {i : Nat}

/-- What a step does to those who stand in line at a gate: one joins, all stay, or one leaves. -/
theorem Moved.standing {after : World} {s t : Submission} (h : Moved mint w after i s)
    (hs : w.submissions[i]? = some s) (ht : after.submissions[i]? = some t) (hlined : w.Lined)
    (d : Nat) :
    (after.gateAt d).standing = (w.gateAt d).standing ++ [i] ∧ s.phase = .fresh ∧
        t.phase = .queued ∨
      (after.gateAt d).standing = (w.gateAt d).standing ∧ t.phase = .queued ∨
      (after.gateAt d).standing = (w.gateAt d).standing.filter (· != i) := by
  obtain ⟨c, t', port', news, hmove, hdiffers, _⟩ := h
  obtain rfl := Option.some.inj (hdiffers.submission.symm.trans ht)
  have hat := hlined d
  -- A gate that stays as it is, and at which the submission does not stand.
  have hstays : after.ports[d]? = w.ports[d]? → (∀ turn, (i, turn) ∉ (w.gateAt d).line) →
      (after.gateAt d).standing = (w.gateAt d).standing.filter (· != i) := by
    intro hports hout
    have hsame : after.gateAt d = w.gateAt d := by
      unfold gateAt
      rw [hports]
    rw [hsame]
    exact (Gate.Passes.kept hout).standing
  by_cases hd : d = c
  · subst hd
    cases hport : w.ports[d]? with
    | none =>
        rw [hport] at hmove
        obtain rfl : port' = none :=
          Option.not_isSome_iff_eq_none.mp (by rw [hmove.isSome_eq]; simp)
        refine Or.inr (Or.inr (hstays (hdiffers.port.trans hport.symm) ?_))
        simp [gateAt, hport, Gate.fresh]
    | some port =>
        rw [hport] at hmove
        obtain ⟨next, rfl⟩ := Option.isSome_iff_exists.mp hmove.isSome_eq
        rw [gateAt_of_port hport] at hat ⊢
        rw [gateAt_of_port hdiffers.port]
        obtain ⟨hfresh, hqueued, -, -, hgate⟩ | ⟨hqueued, rfl, -, rfl⟩ | ⟨-, hpasses⟩ :=
          hmove.passes fun hphase => hat.not_mem hs fun hqueued => absurd hqueued hphase
        · rw [hgate]
          exact Or.inl ⟨Gate.standing_join _ _, hfresh, hqueued⟩
        · exact Or.inr (Or.inl ⟨rfl, hqueued⟩)
        · exact Or.inr (Or.inr hpasses.standing)
  · refine Or.inr (Or.inr (hstays (hdiffers.ports d hd) (hat.not_mem hs fun hqueued => ?_)))
    rw [hmove.queued.1 hqueued]
    exact Ne.symm hd

/-- What comes from outside lets nobody new stand in line. -/
theorem Outside.standing {after : World} (h : Outside w action after) (d : Nat) :
    (after.gateAt d).standing.Sublist (w.gateAt d).standing := by
  cases hport : w.ports[d]? with
  | none =>
      cases hnext : after.ports[d]? with
      | none => simp [gateAt, hport, hnext]
      | some next =>
          obtain ⟨peer, rfl⟩ := h.opened d next hnext hport
          simp [gateAt, hport, hnext]
  | some port =>
      obtain ⟨next, hnext, htouch⟩ := h.port d port hport
      rw [gateAt_of_port hport, gateAt_of_port hnext]
      cases htouch with
      | untouched | delivered | linked | closed => exact List.Sublist.refl _
      | withdrew i => exact Gate.standing_withdraw port.gate i

end

end World

end DesignBridge
