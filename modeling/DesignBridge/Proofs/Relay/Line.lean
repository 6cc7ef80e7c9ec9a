import DesignBridge.Proofs.Relay.Exclusion

/-! # Standing in line

Whoever waits for its turn stands in line at the gate of its connection, once, and nobody else does.
A place that was called or withdrawn is taken up by its holder's next step. When no one is through
the gate the first in line is called or has withdrawn, so no turn is lost.
-/

namespace DesignBridge

namespace Gate

/-- What becomes of a gate by a step after which its maker does not stand in line. -/
inductive Passes (g : Gate) (who : Nat) : Gate → Prop
  | kept (hout : ∀ turn, (who, turn) ∉ g.line) : Passes g who g
  /-- Someone is through. -/
  | through : Passes g who ⟨true, (g.drop who).line⟩
  /-- No one is through any more, and the next is called. -/
  | freed : Passes g who (Gate.call ⟨false, (g.drop who).line⟩).1

variable {g after : Gate} {who : Nat}

/-- Where every name stands once, a place is found by its name. -/
theorem turn?_of_mem (h : (g.line.map Prod.fst).Nodup) {turn : Turn}
    (hplace : (who, turn) ∈ g.line) :
    g.turn? who = some turn :=
  lookup_of_mem h hplace

theorem drop_line_of_not_mem (h : ∀ turn, (who, turn) ∉ g.line) : (g.drop who).line = g.line := by
  refine List.filter_eq_self.mpr fun place hplace => ?_
  have hne : place.1 ≠ who := fun heq => h place.2 (heq ▸ hplace)
  simpa using hne

/-- Whoever does not stand in line is among no names from it. -/
theorem names_of_not_mem (h : ∀ turn, (who, turn) ∉ g.line) {places : List (Nat × Turn)}
    (hplaces : places ⊆ g.line) :
    (places.map Prod.fst).filter (· != who) = places.map Prod.fst := by
  refine List.filter_eq_self.mpr fun other hother => ?_
  obtain ⟨⟨_, turn⟩, hplace, rfl⟩ := List.mem_map.mp hother
  have hne : ∀ other turn, (other, turn) ∈ g.line → other ≠ who :=
    fun other turn hplace heq => h turn (heq ▸ hplace)
  simpa using hne _ _ (hplaces hplace)

theorem passes_take (h : ∀ turn, (who, turn) ∉ g.line) : g.Passes who g.take := by
  have hdrop := drop_line_of_not_mem h
  unfold take
  rw [← hdrop]
  exact .through

theorem passes_leave (h : ∀ turn, (who, turn) ∉ g.line) : g.Passes who g.leave.1 := by
  have hfreed : g.Passes who (Gate.call ⟨false, (g.drop who).line⟩).1 := .freed
  rw [drop_line_of_not_mem h] at hfreed
  exact hfreed

theorem passes_leaveLine (g : Gate) (who : Nat) : g.Passes who (g.leaveLine who).1 := by
  obtain ⟨held, line⟩ := g
  cases held with
  | true => exact .through
  | false => exact .freed

/-! ## Names and places -/

/-- The names in line are the same when the next is called. -/
theorem call_names (g : Gate) : g.call.1.line.map Prod.fst = g.line.map Prod.fst := by
  unfold call
  split
  next who rest hline => simp [hline]
  next => rfl

theorem mem_call_withdrawn {g : Gate} {who : Nat} :
    (who, .withdrawn) ∈ g.call.1.line ↔ (who, .withdrawn) ∈ g.line := by
  unfold call
  split
  next first rest hline => simp [hline]
  next => rfl

/-- Whoever is first when the next was called does not wait. -/
theorem call_first {g : Gate} {place : Nat × Turn} (h : g.call.1.line.head? = some place) :
    place.2 ≠ .waiting := by
  unfold call at h
  split at h
  next first rest hline =>
    obtain rfl := Option.some.inj h
    simp
  next hfirst =>
    obtain ⟨who, turn⟩ := place
    obtain ⟨rest, hline⟩ := List.head?_eq_some_iff.mp h
    rintro rfl
    exact hfirst who rest hline

namespace Passes

/-- The others stand in line as before, and whoever made the step does not. -/
theorem names (h : g.Passes who after) :
    after.line.map Prod.fst = (g.line.map Prod.fst).filter (· != who) := by
  have hdrop : (g.drop who).line.map Prod.fst = (g.line.map Prod.fst).filter (· != who) := by
    simp [drop, List.filter_map, Function.comp_def]
  cases h with
  | kept hout => exact (names_of_not_mem hout (List.Subset.refl _)).symm
  | through => exact hdrop
  | freed => exact (call_names _).trans hdrop

theorem withdrawn (h : g.Passes who after) {other : Nat}
    (hplace : (other, .withdrawn) ∈ after.line) : (other, .withdrawn) ∈ g.line := by
  cases h with
  | kept => exact hplace
  | through => exact mem_drop hplace
  | freed =>
      have hbefore : (other, .withdrawn) ∈ (Gate.mk false (g.drop who).line).line :=
        mem_call_withdrawn.mp hplace
      exact mem_drop hbefore

theorem first (h : g.Passes who after)
    (hfirst : g.held = false → ∀ place, g.line.head? = some place → place.2 ≠ .waiting)
    (hopen : after.held = false) {place : Nat × Turn} (hplace : after.line.head? = some place) :
    place.2 ≠ .waiting := by
  cases h with
  | kept => exact hfirst hopen place hplace
  | through => cases hopen
  | freed => exact call_first hplace

end Passes

end Gate

section

variable {mint : Nat → String} {w : World} {i c : Nat} {s t : Submission} {port after : Port}
  {phase : Phase} {news : List RelayEvent}

/-- Whoever comes through the gate leaves the line as it is, apart from calling the next. -/
theorem Entry.passes {line : List (Nat × Turn)} (h : Entry w i c s port phase after news)
    (hgate : port.gate = ⟨true, line⟩) :
    after.gate = ⟨true, line⟩ ∨ after.gate = (Gate.call ⟨false, line⟩).1 := by
  have hleft : port.gate.leave.1 = (Gate.call ⟨false, line⟩).1 := by rw [hgate]; rfl
  cases h with
  | replaced | unmeasured | overlong | busy | closed | broken | late => exact Or.inr hleft
  | stalled | sent => exact Or.inl hgate

theorem Entry.ne_queued (h : Entry w i c s port phase after news) : phase ≠ .queued := by
  cases h <;> simp

/-- What a step does to the gate: it joins the line, rests, or is not in line afterwards. -/
theorem Move.passes (h : Move mint w i c s (some port) t (some after) news)
    (hout : s.phase ≠ .queued → ∀ turn, (i, turn) ∉ port.gate.line) :
    (s.phase = .fresh ∧ t.phase = .queued ∧ t.connection = c ∧ port.gate.isOpen = false ∧
      after.gate = port.gate.join i) ∨
    (s.phase = .queued ∧ t = s ∧ s.Rests w i port ∧ after = port) ∨
    (t.phase ≠ .queued ∧ port.gate.Passes i after.gate) := by
  cases h with
  | rested hc hrests hphase =>
      by_cases hqueued : s.phase = .queued
      · exact Or.inr (Or.inl ⟨hqueued, rfl, hrests port rfl, rfl⟩)
      · exact Or.inr (Or.inr ⟨hqueued, .kept (hout hqueued)⟩)
  | abandoned hphase | alone hphase =>
      exact Or.inr (Or.inr ⟨by simp, .kept (hout (by simp [hphase]))⟩)
  | joined hphase _ _ hopen =>
      exact Or.inl ⟨hphase, Submission.settle_phase .., Submission.settle_connection .., hopen, rfl⟩
  | entered hphase _ _ _ hentry =>
      have hnot := hout (by simp [hphase])
      refine Or.inr (Or.inr ⟨hentry.ne_queued, ?_⟩)
      obtain hgate | hgate := hentry.passes rfl
      · rw [hgate]
        exact Gate.passes_take hnot
      · rw [hgate]
        exact Gate.passes_leave hnot
  | withdrew => exact Or.inr (Or.inr ⟨by simp, Gate.passes_leaveLine _ _⟩)
  | called _ _ _ _ hentry =>
      refine Or.inr (Or.inr ⟨hentry.ne_queued, ?_⟩)
      obtain hgate | hgate := hentry.passes rfl
      · rw [hgate]
        exact .through
      · rw [hgate]
        exact .freed
  | sent hphase | rearmed hphase =>
      exact Or.inr (Or.inr ⟨by simp, .kept (hout (by simp [hphase]))⟩)
  | overdue hphase => exact Or.inr (Or.inr ⟨by simp, Gate.passes_leave (hout (by simp [hphase]))⟩)
  | ended _ hending =>
      refine Or.inr (Or.inr ⟨by simp, Gate.passes_leave (hout fun hphase => ?_)⟩)
      have hwaiter := hending.waiter?
      rw [hphase] at hwaiter
      cases hwaiter

/-- What comes from outside does to a line at most that a place is withdrawn. -/
theorem Touch.line {action : RelayAction} (h : Touch c port action after) :
    after.gate.held = port.gate.held ∧
    after.gate.line.map Prod.fst = port.gate.line.map Prod.fst ∧
    (∀ j turn, (j, turn) ∈ after.gate.line →
      (j, turn) ∈ port.gate.line ∨ action = .cancel j ∧ turn = .withdrawn) ∧
    ∀ place, after.gate.line.head? = some place → place.2 = .waiting →
      port.gate.line.head? = some place := by
  cases h with
  | untouched | delivered | linked | closed =>
      exact ⟨rfl, rfl, fun _ _ hplace => Or.inl hplace, fun _ hplace _ => hplace⟩
  | withdrew who =>
      refine ⟨rfl, by simp [Gate.withdraw], fun j turn hplace => ?_, fun place hplace hturn => ?_⟩
      · simp only [Gate.withdraw, List.mem_map, Prod.mk.injEq] at hplace
        obtain ⟨⟨other, before⟩, hmem, rfl, rfl⟩ := hplace
        dsimp only
        split
        next hwho => exact Or.inr ⟨by rw [hwho.1], rfl⟩
        next => exact Or.inl hmem
      · simp only [Gate.withdraw, List.head?_map, Option.map_eq_some_iff] at hplace
        obtain ⟨⟨other, before⟩, hhead, rfl⟩ := hplace
        dsimp only at hturn ⊢
        split at hturn
        next => cases hturn
        next hnot => simpa [hnot] using hhead

/-- A submission stands in line only on the connection of its steps. -/
theorem Move.queued {before then_ : Option Port} (h : Move mint w i c s before t then_ news) :
    (s.phase = .queued → s.connection = c) ∧ (t.phase = .queued → t.connection = c) := by
  cases h with
  | rested hc => exact ⟨fun _ => hc, fun _ => hc⟩
  | abandoned hphase | alone hphase | unopened hphase => exact ⟨by simp [hphase], by simp⟩
  | joined hphase => exact ⟨by simp [hphase], fun _ => Submission.settle_connection ..⟩
  | entered hphase _ _ _ hentry => exact ⟨by simp [hphase], fun h => absurd h hentry.ne_queued⟩
  | called _ hc | withdrew _ hc => exact ⟨fun _ => hc, fun _ => hc⟩
  | sent _ hc | rearmed _ hc | overdue _ hc | ended hc => exact ⟨fun _ => hc, fun _ => hc⟩

theorem Move.isSome_eq {before then_ : Option Port} (h : Move mint w i c s before t then_ news) :
    then_.isSome = before.isSome := by
  cases h <;> rfl

/-- Where there is no port, nobody begins to wait. -/
theorem Move.queued_of_unported {then_ : Option Port} (h : Move mint w i c s none t then_ news)
    (hphase : t.phase = .queued) : s.phase = .queued := by
  cases h with
  | rested => exact hphase
  | abandoned | alone | unopened => cases hphase

end

namespace World

/-- Whether a submission waits for its turn on a connection. -/
def Queues (w : World) (c i : Nat) : Prop :=
  ∃ s, w.submissions[i]? = some s ∧ s.phase = .queued ∧ s.connection = c

/-- The order of the line at the gate of a connection. -/
structure LinedAt (w : World) (c : Nat) (g : Gate) : Prop where
  nodup : (g.line.map Prod.fst).Nodup
  queues : ∀ i, i ∈ g.line.map Prod.fst ↔ w.Queues c i
  withdrawn : ∀ i s, (i, .withdrawn) ∈ g.line → w.submissions[i]? = some s → s.cancelled = true
  ready : ∀ i turn, (i, turn) ∈ g.line → turn ≠ .waiting → i ∈ w.ready
  first : g.held = false → ∀ place, g.line.head? = some place → place.2 ≠ .waiting

/-- The gate of a connection; no one has come to the gate of one that is not there. -/
def gateAt (w : World) (c : Nat) : Gate :=
  (w.ports[c]?.map Port.gate).getD .fresh

theorem gateAt_of_port {w : World} {c : Nat} {port : Port} (h : w.ports[c]? = some port) :
    w.gateAt c = port.gate := by
  simp [gateAt, h]

/-- The order of all lines. -/
def Lined (w : World) : Prop :=
  ∀ c, w.LinedAt c (w.gateAt c)

theorem queues_iff {w : World} {i : Nat} {s : Submission} (hs : w.submissions[i]? = some s)
    (c : Nat) : w.Queues c i ↔ s.phase = .queued ∧ s.connection = c := by
  simp [Queues, hs]

theorem queues_congr {w after : World} {i : Nat}
    (h : after.submissions[i]? = w.submissions[i]?) (c : Nat) :
    after.Queues c i ↔ w.Queues c i := by
  unfold Queues
  rw [h]

theorem LinedAt.mem_iff {w : World} {c : Nat} {g : Gate} (h : w.LinedAt c g) (i : Nat) :
    (∃ turn, (i, turn) ∈ g.line) ↔ w.Queues c i := by
  rw [← h.queues i]
  simp

/-- Whoever does not wait for its turn stands in no line. -/
theorem LinedAt.not_mem {w : World} {c i : Nat} {g : Gate} {s : Submission} (h : w.LinedAt c g)
    (hs : w.submissions[i]? = some s) (hout : s.phase = .queued → s.connection ≠ c)
    (turn : Turn) : (i, turn) ∉ g.line := fun hplace => by
  obtain ⟨hphase, hconnection⟩ := (queues_iff hs c).mp ((h.mem_iff i).mp ⟨turn, hplace⟩)
  exact hout hphase hconnection

/-! ## Steps -/

section

variable {mint : Nat → String} {w after : World} {i c : Nat} {s t : Submission} {g next : Gate}

/-- A line stays in order when its places stay and their holders go on as they could before. -/
theorem LinedAt.congr (h : w.LinedAt c g) (hqueues : ∀ j, after.Queues c j ↔ w.Queues c j)
    (hplaces : ∀ j turn, (j, turn) ∈ g.line →
      after.submissions[j]? = w.submissions[j]? ∧ (turn ≠ .waiting → j ∈ after.ready)) :
    after.LinedAt c g where
  nodup := h.nodup
  queues j := (h.queues j).trans (hqueues j).symm
  withdrawn j s hplace hs := h.withdrawn j s hplace ((hplaces j _ hplace).1 ▸ hs)
  ready j turn hplace hturn := (hplaces j turn hplace).2 hturn
  first := h.first

/-- A newcomer joins behind all others. -/
theorem LinedAt.join (h : w.LinedAt c g) (hopen : g.isOpen = false) (hout : ¬ w.Queues c i)
    (hin : after.Queues c i) (hothers : ∀ j, j ≠ i → after.submissions[j]? = w.submissions[j]?)
    (hready : ∀ j ∈ w.ready, j ≠ i → j ∈ after.ready) : after.LinedAt c (g.join i) := by
  have hnot : i ∉ g.line.map Prod.fst := fun hmem => hout ((h.queues i).mp hmem)
  have hne : ∀ j turn, (j, turn) ∈ g.line → j ≠ i := fun j turn hplace heq =>
    hnot (heq ▸ List.mem_map_of_mem hplace)
  have hplace : ∀ j turn, (j, turn) ∈ (g.join i).line → turn ≠ .waiting → (j, turn) ∈ g.line := by
    intro j turn hmem hturn
    simp only [Gate.join, List.mem_append, List.mem_singleton, Prod.mk.injEq] at hmem
    exact hmem.resolve_right fun hnew => hturn hnew.2
  constructor
  case nodup =>
    rw [Gate.join, List.map_append, List.nodup_append]
    refine ⟨h.nodup, by simp, ?_⟩
    rintro j hj k hk rfl
    obtain rfl : j = i := by simpa using hk
    exact hnot hj
  case queues =>
    intro j
    rw [Gate.join, List.map_append, List.mem_append, h.queues j]
    by_cases hj : j = i
    · subst hj
      simp [hin]
    · simp [hj, queues_congr (hothers j hj) c]
  case withdrawn =>
    intro j s hmem hs
    have hold := hplace j _ hmem (by simp)
    rw [hothers j (hne j _ hold)] at hs
    exact h.withdrawn j s hold hs
  case ready =>
    intro j turn hmem hturn
    have hold := hplace j turn hmem hturn
    exact hready j (h.ready j turn hold hturn) (hne j turn hold)
  case first =>
    intro hheld place hfirst
    cases hline : g.line with
    | nil =>
        have hheld : g.held = false := hheld
        simp [Gate.isOpen, hheld, hline] at hopen
    | cons head rest =>
        rw [Gate.join, hline] at hfirst
        exact h.first hheld place (by rw [hline]; exact hfirst)

/-- Whoever is not in line after its step leaves the others as they stood. -/
theorem LinedAt.pass (h : w.LinedAt c g) (hpasses : g.Passes i next) (hout : ¬ after.Queues c i)
    (hothers : ∀ j, j ≠ i → after.submissions[j]? = w.submissions[j]?)
    (hready : ∀ j ∈ w.ready, j ≠ i → j ∈ after.ready)
    (hcalled : ∀ j, (j, .called) ∈ next.line → j ∈ after.ready ∨ (j, .called) ∈ g.line) :
    after.LinedAt c next := by
  have hmem : ∀ j, j ∈ next.line.map Prod.fst ↔ j ∈ g.line.map Prod.fst ∧ j ≠ i := by
    intro j
    rw [hpasses.names, List.mem_filter]
    simp
  have hne : ∀ j turn, (j, turn) ∈ next.line → j ≠ i := fun j turn hplace =>
    ((hmem j).mp (List.mem_map_of_mem hplace)).2
  constructor
  case nodup =>
    rw [hpasses.names]
    exact h.nodup.filter _
  case queues =>
    intro j
    rw [hmem j, h.queues j]
    by_cases hj : j = i
    · subst hj
      simp [hout]
    · simp [hj, queues_congr (hothers j hj) c]
  case withdrawn =>
    intro j s hplace hs
    rw [hothers j (hne j _ hplace)] at hs
    exact h.withdrawn j s (hpasses.withdrawn hplace) hs
  case ready =>
    intro j turn hplace hturn
    have hj := hne j turn hplace
    cases turn with
    | waiting => exact absurd rfl hturn
    | called =>
        exact (hcalled j hplace).elim id fun hold => hready j (h.ready j _ hold hturn) hj
    | withdrawn => exact hready j (h.ready j _ (hpasses.withdrawn hplace) hturn) hj
  case first => exact fun hheld place hfirst => hpasses.first h.first hheld hfirst

/-- A step keeps the order of the line at the gate of its connection. -/
theorem Differs.linedAt {port next : Port} {news : List RelayEvent}
    (h : Differs w after i c t (some next) news)
    (hmove : Move mint w i c s (some port) t (some next) news) (hs : w.submissions[i]? = some s)
    (hport : w.ports[c]? = some port) (hlined : w.LinedAt c port.gate) :
    after.LinedAt c next.gate := by
  have hself : w.Queues c i ↔ s.phase = .queued := by
    rw [queues_iff hs]
    exact and_iff_left_of_imp hmove.queued.1
  have hself' : after.Queues c i ↔ t.phase = .queued := by
    rw [queues_iff h.submission]
    exact and_iff_left_of_imp hmove.queued.2
  have hout : s.phase ≠ .queued → ∀ turn, (i, turn) ∉ port.gate.line := fun hphase =>
    hlined.not_mem hs fun hqueued => absurd hqueued hphase
  obtain ⟨hfresh, hqueued, -, hopen, hgate⟩ | ⟨hqueued, rfl, hrests, rfl⟩ | ⟨hphase, hpasses⟩ :=
    hmove.passes hout
  · rw [hgate]
    exact hlined.join hopen (by rw [hself, hfresh]; simp) (hself'.mpr hqueued) h.submissions h.ready
  · have hsame : ∀ j, after.submissions[j]? = w.submissions[j]? := fun j => by
      by_cases hj : j = i
      · rw [hj, h.submission, hs]
      · exact h.submissions j hj
    refine hlined.congr (fun j => queues_congr (hsame j) c) fun j turn hplace => ⟨hsame j, ?_⟩
    intro hturn
    refine h.ready j (hlined.ready j turn hplace hturn) ?_
    rintro rfl
    -- Whoever rests was not called and has not withdrawn.
    simp only [Submission.Rests, hqueued] at hrests
    cases turn with
    | waiting => exact hturn rfl
    | called => exact hrests.2 (Gate.turn?_of_mem hlined.nodup hplace)
    | withdrawn =>
        rw [hlined.withdrawn j t hplace hs] at hrests
        cases hrests.1
  · refine hlined.pass hpasses (fun hin => hphase (hself'.mp hin)) h.submissions h.ready ?_
    intro j hcalled
    refine (h.called next j h.port hcalled).imp_right ?_
    rintro ⟨q, hq, hplace⟩
    rw [hport] at hq
    exact Option.some.inj hq ▸ hplace

/-- A step keeps the order of every line. -/
theorem Moved.lined (h : Moved mint w after i s) (hs : w.submissions[i]? = some s)
    (hlined : w.Lined) : after.Lined := by
  obtain ⟨c, t, port', news, hmove, hdiffers, _⟩ := h
  intro d
  have hat := hlined d
  -- At a gate that stays as it is the submission stood in no line.
  have hstays : after.ports[d]? = w.ports[d]? → ¬ w.Queues d i → ¬ after.Queues d i →
      after.LinedAt d (after.gateAt d) := by
    intro hports hout hout'
    unfold gateAt
    rw [hports]
    refine hat.congr (fun j => ?_) fun j turn hplace => ?_
    · by_cases hj : j = i
      · subst hj
        simp [hout, hout']
      · exact queues_congr (hdiffers.submissions j hj) d
    · have hj : j ≠ i := fun heq => hout (heq ▸ (hat.mem_iff j).mp ⟨turn, hplace⟩)
      exact ⟨hdiffers.submissions j hj, fun hturn =>
        hdiffers.ready j (hat.ready j turn hplace hturn) hj⟩
  by_cases hd : d = c
  · subst hd
    cases hport : w.ports[d]? with
    | none =>
        rw [hport] at hmove
        have hout : ¬ w.Queues d i := fun hin => by
          have hplace := (hat.mem_iff i).mpr hin
          simp [gateAt, hport, Gate.fresh] at hplace
        obtain rfl : port' = none :=
          Option.not_isSome_iff_eq_none.mp (by rw [hmove.isSome_eq]; simp)
        refine hstays (hdiffers.port.trans hport.symm) hout fun hin => hout ?_
        obtain ⟨hphase, _⟩ := (queues_iff hdiffers.submission d).mp hin
        have hqueued := hmove.queued_of_unported hphase
        exact (queues_iff hs d).mpr ⟨hqueued, hmove.queued.1 hqueued⟩
    | some port =>
        rw [hport] at hmove
        obtain ⟨next, rfl⟩ := Option.isSome_iff_exists.mp hmove.isSome_eq
        rw [gateAt_of_port hdiffers.port]
        rw [gateAt_of_port hport] at hat
        exact hdiffers.linedAt hmove hs hport hat
  · refine hstays (hdiffers.ports d hd) (fun hin => ?_) fun hin => ?_
    · obtain ⟨hphase, hconnection⟩ := (queues_iff hs d).mp hin
      exact hd (hconnection.symm.trans (hmove.queued.1 hphase))
    · obtain ⟨hphase, hconnection⟩ := (queues_iff hdiffers.submission d).mp hin
      exact hd (hconnection.symm.trans (hmove.queued.2 hphase))

/-- What comes from outside lets nobody join a line or leave one. -/
theorem Outside.queues_iff {action : RelayAction} (h : Outside w action after) (c j : Nat) :
    after.Queues c j ↔ w.Queues c j := by
  cases hs : w.submissions[j]? with
  | some s =>
      obtain ⟨cancelled, hafter⟩ := h.submission j s hs
      rw [World.queues_iff hafter, World.queues_iff hs]
  | none =>
      refine ⟨?_, fun ⟨s, hs', _⟩ => by rw [hs] at hs'; cases hs'⟩
      rintro ⟨s, hafter, hphase, _⟩
      obtain ⟨body, _, rfl⟩ := h.joined j s hafter hs
      cases hphase

/-- What comes from outside keeps the order of every line. -/
theorem Outside.lined {action : RelayAction} (h : Outside w action after) (hlined : w.Lined) :
    after.Lined := by
  intro c
  have hat := hlined c
  cases hport : w.ports[c]? with
  | none =>
      have hfresh : after.gateAt c = w.gateAt c := by
        unfold gateAt
        rw [hport]
        cases hnext : after.ports[c]? with
        | none => rfl
        | some next =>
            obtain ⟨peer, rfl⟩ := h.opened c next hnext hport
            rfl
      rw [hfresh]
      refine hat.congr (h.queues_iff c) fun j turn hplace => ?_
      simp [gateAt, hport, Gate.fresh] at hplace
  | some port =>
      obtain ⟨next, hnext, htouch⟩ := h.port c port hport
      rw [gateAt_of_port hnext]
      rw [gateAt_of_port hport] at hat
      obtain ⟨hheld, hnames, hplaces, hfirst⟩ := htouch.line
      have hqueued : ∀ j turn, (j, turn) ∈ next.gate.line →
          ∃ s cancelled, w.submissions[j]? = some s ∧ s.isFinished = false ∧
            after.submissions[j]? = some { s with cancelled } := by
        intro j turn hplace
        have hmem : j ∈ port.gate.line.map Prod.fst := by
          rw [← hnames]
          exact List.mem_map_of_mem hplace
        obtain ⟨s, hs, hphase, _⟩ := (hat.queues j).mp hmem
        obtain ⟨cancelled, hafter⟩ := h.submission j s hs
        exact ⟨s, cancelled, hs, by simp [Submission.isFinished, hphase], hafter⟩
      constructor
      case nodup =>
        rw [hnames]
        exact hat.nodup
      case queues =>
        intro j
        rw [hnames, hat.queues j]
        exact (h.queues_iff c j).symm
      case withdrawn =>
        intro j t hplace ht
        obtain ⟨s, cancelled, hs, hopen, hafter⟩ := hqueued j _ hplace
        obtain ⟨hkept, hcancelled⟩ := h.cancelled j s t hs ht
        by_cases hcancel : action = .cancel j
        · exact (hcancelled hcancel hopen).1
        · have hold := (hplaces j _ hplace).resolve_right fun hnew => hcancel hnew.1
          rw [hkept hcancel]
          exact hat.withdrawn j s hold hs
      case ready =>
        intro j turn hplace hturn
        obtain ⟨s, cancelled, hs, hopen, hafter⟩ := hqueued j _ hplace
        obtain hold | ⟨hcancel, -⟩ := hplaces j turn hplace
        · exact h.ready j (hat.ready j turn hold hturn) (by simp [hs])
        · exact ((h.cancelled j s _ hs hafter).2 hcancel hopen).2
      case first =>
        intro hopen place hplace hwaiting
        exact hat.first (hheld ▸ hopen) place (hfirst place hplace hwaiting) hwaiting

theorem act_lined (mint : Nat → String) (w : World) (action : RelayAction) (h : w.Lined) :
    (w.act mint action).Lined := by
  obtain ⟨i, s, _, _, hs, hmoved⟩ | houtside := act_cases mint w action
  · exact hmoved.lined hs h
  · exact houtside.lined h

theorem fresh_lined (patience : Patience) : (fresh patience).Lined := by
  intro c
  constructor <;> simp [gateAt, fresh, Gate.fresh, Queues]

/-- After every history every line is in order. -/
theorem play_lined (mint : Nat → String) (patience : Patience) (history : List RelayAction) :
    ((fresh patience).play mint history).Lined :=
  play_induction (act_lined mint) (fresh_lined patience) history

end

end World

end DesignBridge
