import DesignBridge.Proofs.Relay.Underway
import DesignBridge.Proofs.Server.Turn

/-! # What requests wait for

After every history each request that waits has a submission to itself, which has not ended. So
every request that was handed on goes by its own submission, and what has been answered is answered
once and for all.
-/

namespace DesignBridge

namespace Bridge

section

variable {b after : Bridge} {n : Nat}

theorem answersTo_congr (h : after.answers = b.answers) (n : Nat) :
    after.answersTo n = b.answersTo n := by
  rw [answersTo, answersTo, h]

theorem answersTo_of_other {m : Nat} {response : Response}
    (h : after.answers = b.answers ++ [(m, response)]) (hm : m ≠ n) :
    after.answersTo n = b.answersTo n := by
  simp [answersTo, h, hm]

theorem answersTo_of_own {response : Response} (h : after.answers = b.answers ++ [(n, response)]) :
    after.answersTo n = b.answersTo n ++ [response] := by
  simp [answersTo, h]

/-- Neither the setup nor the relay is ever taken away. -/
theorem Turn.setup (h : Turn b after) :
    after.setup = b.setup ∧ after.hasRelay = b.hasRelay ∧ b.requests ≤ after.requests := by
  cases h with
  | quiet hdesk | answered _ hdesk | posted _ _ hdesk | concluded _ _ _ hdesk =>
      refine ⟨congrArg Desk.setup hdesk, congrArg Desk.hasRelay hdesk, ?_⟩
      have hrequests := congrArg Desk.requests hdesk
      simp only [desk] at hrequests
      omega

/-- How a submission has ended does not change. -/
theorem Turn.outcome? (h : Turn b after) {i : Nat} {outcome : Outcome}
    (hended : b.world.outcome? i = some outcome) : after.world.outcome? i = some outcome := by
  have hopen : ∀ {j : Nat}, b.world.outcome? j = none → i ≠ j := by
    rintro j hbefore rfl
    rw [hended] at hbefore
    cases hbefore
  cases h with
  | quiet _ hsame =>
      exact ((hsame i).resolve_right fun ⟨hbefore, _⟩ => hopen hbefore rfl).trans hended
  | answered _ _ hsame | posted _ _ _ hsame => exact (hsame i).trans hended
  | concluded _ _ _ _ hbefore _ hsame => exact (hsame i (hopen hbefore)).trans hended

end

/-! ## What waits -/

/-- Whether a request that waits does so rightly: it has been asked, and its submission is there and
has not ended. -/
structure Waits (b : Bridge) (p : Pending) : Prop where
  asked : p.number < b.requests
  there : (b.world.submissions[p.submission]?).isSome
  unended : b.world.outcome? p.submission = none

/-- How things stand after every history: every request that waits has its own submission, and what
has not been asked yet has no answer. -/
structure Balanced (b : Bridge) : Prop where
  silent : b.world.events = []
  ofTasks : b.world.OfTasks
  waits : ∀ p ∈ b.pending, Waits b p
  apart : ∀ p ∈ b.pending, ∀ q ∈ b.pending,
    p.number = q.number ∨ p.submission = q.submission → p = q
  unasked : ∀ n, b.requests ≤ n → b.answersTo n = []

/-- Whether a request has been answered once and for all. -/
structure Answered (b : Bridge) (number : Nat) (response : Response) : Prop where
  asked : number < b.requests
  answers : b.answersTo number = [response]
  gone : ∀ p ∈ b.pending, p.number ≠ number

/-- Whether a request goes by its submission: it waits as long as that has not ended, and then has
the answer for how it did. -/
def Follows (b : Bridge) (p : Pending) : Prop :=
  b.world.outcome? p.submission = none ∧ p ∈ b.pending ∧ b.answersTo p.number = [] ∨
    ∃ outcome, b.world.outcome? p.submission = some outcome ∧
      b.Answered p.number (b.answerFor p.request outcome)

section

variable {b after : Bridge}

theorem act_ofTasks (h : b.world.OfTasks) (action : BridgeAction) :
    (b.act action).world.OfTasks := by
  refine (b.act_via action).keeps (fun v relayed hallowed hv => ?_) (fun _ events hv =>
    hv.withEvents events) h
  exact hv.act _ fun body hsubmit => by
    rw [hsubmit] at hallowed
    exact hallowed

/-- A submission is there ever after, with the body that it was given. -/
theorem act_body {i : Nat} {members : Json.Members}
    (h : ∃ s, b.world.submissions[i]? = some s ∧ s.body = members) (action : BridgeAction) :
    ∃ t, (b.act action).world.submissions[i]? = some t ∧ t.body = members := by
  refine (b.act_via action).keeps (P := fun w => ∃ t, w.submissions[i]? = some t ∧ t.body = members)
    (fun v relayed _ ⟨s, hs, hbody⟩ => ?_) (fun _ _ hv => hv) h
  obtain ⟨t, ht, hsame⟩ := World.act_body b.setup.supply.taskId hs relayed
  exact ⟨t, ht, hsame.trans hbody⟩

theorem act_patience (b : Bridge) (action : BridgeAction) :
    (b.act action).world.patience = b.world.patience :=
  (b.act_via action).keeps (P := fun w => w.patience = b.world.patience)
    (fun v relayed _ hv => (World.act_patience _ v relayed).trans hv) (fun _ _ hv => hv) rfl

/-- Things stay balanced as long as no request joins those that wait. -/
theorem Balanced.next (h : Balanced b) (hsilent : after.world.events = [])
    (hofTasks : after.world.OfTasks) (hrequests : b.requests ≤ after.requests)
    (hthere : ∀ p ∈ b.pending, (after.world.submissions[p.submission]?).isSome)
    (hpending : ∀ p ∈ after.pending, p ∈ b.pending ∧ after.world.outcome? p.submission = none)
    (hanswers : after.answers = b.answers ∨
      ∃ m response, m < after.requests ∧ after.answers = b.answers ++ [(m, response)]) :
    Balanced after where
  silent := hsilent
  ofTasks := hofTasks
  waits p hp :=
    have ⟨hbefore, hunended⟩ := hpending p hp
    ⟨Nat.lt_of_lt_of_le (h.waits p hbefore).asked hrequests, hthere p hbefore, hunended⟩
  apart p hp q hq := h.apart p (hpending p hp).1 q (hpending q hq).1
  unasked n hn := by
    have hbefore := h.unasked n (Nat.le_trans hrequests hn)
    obtain hsame | ⟨m, response, hm, hmore⟩ := hanswers
    · exact (answersTo_congr hsame n).trans hbefore
    · exact (answersTo_of_other hmore (by omega)).trans hbefore

/-- Things stay balanced when a request joins those that wait, with the submission that it
brings. -/
theorem Balanced.join (h : Balanced b) (hsilent : after.world.events = [])
    (hofTasks : after.world.OfTasks)
    (hthere : ∀ p ∈ b.pending, (after.world.submissions[p.submission]?).isSome)
    {request : Request} {body : Json.Members}
    (hdesk : after.desk = { b.desk with
      requests := b.requests + 1
      pending := b.pending ++ [⟨b.world.submissions.length, b.requests, request⟩] })
    (hsame : ∀ i, after.world.outcome? i = b.world.outcome? i)
    (hjoined : after.world.submissions[b.world.submissions.length]? = some (.fresh body)) :
    Balanced after := by
  have hpending : after.pending = b.pending ++
      [⟨b.world.submissions.length, b.requests, request⟩] := congrArg Desk.pending hdesk
  have hnext : after.requests = b.requests + 1 := congrArg Desk.requests hdesk
  have hanswers : after.answers = b.answers := congrArg Desk.answers hdesk
  -- The newcomer has a number and a submission that no one before it has.
  have hnew : ∀ p ∈ b.pending,
      p.number ≠ b.requests ∧ p.submission ≠ b.world.submissions.length := by
    intro p hp
    refine ⟨Nat.ne_of_lt (h.waits p hp).asked, fun hi => ?_⟩
    have hbefore := (h.waits p hp).there
    rw [hi] at hbefore
    simp at hbefore
  constructor
  case silent => exact hsilent
  case ofTasks => exact hofTasks
  case waits =>
    intro p hp
    rw [hpending, List.mem_append, List.mem_singleton] at hp
    rcases hp with hp | rfl
    · exact ⟨Nat.lt_trans (h.waits p hp).asked (by omega), hthere p hp,
        (hsame _).trans (h.waits p hp).unended⟩
    · exact ⟨by dsimp only; omega, by simp [hjoined], World.outcome?_of_submission hjoined⟩
  case apart =>
    intro p hp q hq hor
    rw [hpending, List.mem_append, List.mem_singleton] at hp hq
    rcases hp with hp | rfl <;> rcases hq with hq | rfl
    · exact h.apart p hp q hq hor
    · exact absurd hor (not_or.mpr (hnew p hp))
    · exact absurd hor (not_or.mpr ⟨(hnew q hq).1.symm, (hnew q hq).2.symm⟩)
    · rfl
  case unasked =>
    exact fun n hn => (answersTo_congr hanswers n).trans (h.unasked n (by omega))

theorem Balanced.act (h : Balanced b) (action : BridgeAction) : Balanced (b.act action) := by
  obtain ⟨hturn, hsilent⟩ := act_turn h.silent action
  have hthere : ∀ p ∈ b.pending, ((b.act action).world.submissions[p.submission]?).isSome := by
    intro p hp
    obtain ⟨s, hs⟩ := Option.isSome_iff_exists.mp (h.waits p hp).there
    obtain ⟨t, ht, _⟩ := act_body ⟨s, hs, rfl⟩ action
    exact Option.isSome_iff_exists.mpr ⟨t, ht⟩
  have hofTasks := act_ofTasks h.ofTasks action
  generalize b.act action = after at hturn hsilent hthere hofTasks
  have hrequests := hturn.setup.2.2
  cases hturn with
  | quiet hdesk hsame =>
      have hpending : after.pending = b.pending := congrArg Desk.pending hdesk
      refine h.next hsilent hofTasks hrequests hthere (fun p hp => ?_)
        (Or.inl (congrArg Desk.answers hdesk))
      rw [hpending] at hp
      have hbefore := (hsame p.submission).resolve_right fun ⟨_, hnone⟩ => hnone p hp rfl
      exact ⟨hp, hbefore.trans (h.waits p hp).unended⟩
  | answered response hdesk hsame =>
      have hpending : after.pending = b.pending := congrArg Desk.pending hdesk
      have hnext : after.requests = b.requests + 1 := congrArg Desk.requests hdesk
      refine h.next hsilent hofTasks hrequests hthere (fun p hp => ?_)
        (Or.inr ⟨b.requests, response, by omega, congrArg Desk.answers hdesk⟩)
      rw [hpending] at hp
      exact ⟨hp, (hsame _).trans (h.waits p hp).unended⟩
  | concluded p outcome hp hdesk _ _ hsame =>
      have hpending : after.pending = b.pending.filter (·.submission != p.submission) :=
        congrArg Desk.pending hdesk
      have hasked := (h.waits p hp).asked
      refine h.next hsilent hofTasks hrequests hthere (fun q hq => ?_)
        (Or.inr ⟨p.number, _, by omega, congrArg Desk.answers hdesk⟩)
      rw [hpending, List.mem_filter, bne_iff_ne] at hq
      exact ⟨hq.1, (hsame _ hq.2).trans (h.waits q hq.1).unended⟩
  | posted request body hdesk hsame hjoined =>
      exact h.join hsilent hofTasks hthere hdesk hsame hjoined

/-- What has been answered once and for all stays so. -/
theorem Answered.act {n : Nat} {response : Response} (h : Answered b n response)
    (hb : Balanced b) (action : BridgeAction) : Answered (b.act action) n response := by
  obtain ⟨hturn, _⟩ := act_turn hb.silent action
  generalize b.act action = after at hturn
  have hasked : n < after.requests := Nat.lt_of_lt_of_le h.asked hturn.setup.2.2
  cases hturn with
  | quiet hdesk =>
      have hpending : after.pending = b.pending := congrArg Desk.pending hdesk
      refine ⟨hasked, (answersTo_congr (congrArg Desk.answers hdesk) n).trans h.answers, ?_⟩
      rw [hpending]
      exact h.gone
  | answered new hdesk =>
      have hpending : after.pending = b.pending := congrArg Desk.pending hdesk
      have hother : b.requests ≠ n := (Nat.ne_of_lt h.asked).symm
      refine ⟨hasked, ?_, hpending ▸ h.gone⟩
      exact (answersTo_of_other (congrArg Desk.answers hdesk) hother).trans h.answers
  | posted request body hdesk =>
      have hpending : after.pending = b.pending ++
          [⟨b.world.submissions.length, b.requests, request⟩] := congrArg Desk.pending hdesk
      refine ⟨hasked, (answersTo_congr (congrArg Desk.answers hdesk) n).trans h.answers, ?_⟩
      intro p hp
      rw [hpending, List.mem_append, List.mem_singleton] at hp
      rcases hp with hp | rfl
      · exact h.gone p hp
      · exact (Nat.ne_of_lt h.asked).symm
  | concluded p outcome hp hdesk =>
      have hpending : after.pending = b.pending.filter (·.submission != p.submission) :=
        congrArg Desk.pending hdesk
      refine ⟨hasked, ?_, fun q hq => ?_⟩
      · exact (answersTo_of_other (congrArg Desk.answers hdesk) (h.gone p hp)).trans h.answers
      · rw [hpending, List.mem_filter] at hq
        exact h.gone q hq.1

/-- A request goes by its submission until it is answered. -/
theorem Follows.act {p : Pending} (h : b.Follows p) (hb : Balanced b) (action : BridgeAction) :
    (b.act action).Follows p := by
  obtain ⟨hturn, _⟩ := act_turn hb.silent action
  obtain ⟨hunended, hp, hanswers⟩ | ⟨outcome, hended, hanswered⟩ := h
  · generalize b.act action = after at hturn
    have hasked := (hb.waits p hp).asked
    have hsetup := hturn.setup
    cases hturn with
    | quiet hdesk hsame =>
        have hpending : after.pending = b.pending := congrArg Desk.pending hdesk
        have hbefore := (hsame p.submission).resolve_right fun ⟨_, hnone⟩ => hnone p hp rfl
        exact Or.inl ⟨hbefore.trans hunended, hpending ▸ hp,
          (answersTo_congr (congrArg Desk.answers hdesk) _).trans hanswers⟩
    | answered response hdesk hsame =>
        have hpending : after.pending = b.pending := congrArg Desk.pending hdesk
        have hother : b.requests ≠ p.number := (Nat.ne_of_lt hasked).symm
        exact Or.inl ⟨(hsame _).trans hunended, hpending ▸ hp,
          (answersTo_of_other (congrArg Desk.answers hdesk) hother).trans hanswers⟩
    | posted request body hdesk hsame =>
        have hpending : after.pending = b.pending ++
            [⟨b.world.submissions.length, b.requests, request⟩] := congrArg Desk.pending hdesk
        refine Or.inl ⟨(hsame _).trans hunended, ?_,
          (answersTo_congr (congrArg Desk.answers hdesk) _).trans hanswers⟩
        rw [hpending]
        exact List.mem_append_left _ hp
    | concluded q outcome hq hdesk _ hended hsame =>
        have hpending : after.pending = b.pending.filter (·.submission != q.submission) :=
          congrArg Desk.pending hdesk
        have hmore : after.answers = b.answers ++ [(q.number, b.answerFor q.request outcome)] :=
          congrArg Desk.answers hdesk
        by_cases hown : p.submission = q.submission
        · obtain rfl := hb.apart p hp q hq (Or.inr hown)
          refine Or.inr ⟨outcome, hended, Nat.lt_of_lt_of_le hasked hsetup.2.2, ?_, ?_⟩
          · rw [answersTo_of_own hmore, hanswers, answerFor_congr hsetup.1]
            rfl
          · intro r hr hnumber
            rw [hpending, List.mem_filter, bne_iff_ne] at hr
            exact hr.2 (congrArg Pending.submission (hb.apart r hr.1 p hp (Or.inl hnumber)))
        · have hother : q.number ≠ p.number := fun hnumber =>
            hown (congrArg Pending.submission (hb.apart p hp q hq (Or.inl hnumber.symm)))
          refine Or.inl ⟨(hsame _ hown).trans hunended, ?_,
            (answersTo_of_other hmore hother).trans hanswers⟩
          rw [hpending, List.mem_filter, bne_iff_ne]
          exact ⟨hp, hown⟩
  · refine Or.inr ⟨outcome, hturn.outcome? hended, ?_⟩
    rw [answerFor_congr hturn.setup.1]
    exact hanswered.act hb action

/-! ## Histories -/

/-- What holds at first and is kept by every action while things are balanced holds after every
history. -/
theorem play_induction {P : Bridge → Prop}
    (hact : ∀ (b : Bridge) action, Balanced b → P b → P (b.act action)) (hb : Balanced b)
    (h : P b) (history : List BridgeAction) :
    Balanced (b.play history) ∧ P (b.play history) := by
  induction history generalizing b with
  | nil => exact ⟨hb, h⟩
  | cons action rest ih => exact ih (hb.act action) (hact b action hb h)

theorem Balanced.play (hb : Balanced b) (history : List BridgeAction) :
    Balanced (b.play history) :=
  (play_induction (P := fun _ => True) (fun _ _ _ _ => trivial) hb trivial history).1

theorem started_balanced (setup : BridgeSetup) (env : Environment) (client : SiteClient) :
    Balanced (started setup env client) where
  silent := rfl
  ofTasks := World.fresh_ofTasks _
  waits p hp := by simp [started, idle] at hp
  apart p hp := by simp [started, idle] at hp
  unasked n _ := by simp [started, idle, answersTo, answers]

theorem play_follows {p : Pending} (hb : Balanced b) (h : b.Follows p)
    (history : List BridgeAction) :
    Balanced (b.play history) ∧ (b.play history).Follows p :=
  play_induction (P := fun b => b.Follows p) (fun _ action hb h => h.act hb action) hb h history

theorem play_answered {n : Nat} {response : Response} (hb : Balanced b)
    (h : Answered b n response) (history : List BridgeAction) :
    Answered (b.play history) n response :=
  (play_induction (P := fun b => Answered b n response) (fun _ action hb h => h.act hb action) hb h
    history).2

theorem play_body {i : Nat} {members : Json.Members}
    (h : ∃ s, b.world.submissions[i]? = some s ∧ s.body = members) (history : List BridgeAction) :
    ∃ t, (b.play history).world.submissions[i]? = some t ∧ t.body = members := by
  induction history generalizing b with
  | nil => exact h
  | cons action rest ih => exact ih (act_body h action)

theorem play_patience (b : Bridge) (history : List BridgeAction) :
    (b.play history).world.patience = b.world.patience := by
  induction history generalizing b with
  | nil => rfl
  | cons action rest ih => exact (ih (b.act action)).trans (b.act_patience action)

/-- What a bridge is started with stays. -/
theorem play_started (setup : BridgeSetup) (env : Environment) (client : SiteClient)
    (history : List BridgeAction) :
    let b := (started setup env client).play history
    Balanced b ∧ b.hasRelay = true ∧ b.world.patience = .ofNumber setup.timeout := by
  refine play_induction
    (P := fun b => b.hasRelay = true ∧ b.world.patience = .ofNumber setup.timeout)
    (fun b action hb ⟨hrelay, hpatience⟩ => ⟨?_, ?_⟩) (started_balanced setup env client)
    ⟨rfl, rfl⟩ history
  · exact (act_turn hb.silent action).1.setup.2.1.trans hrelay
  · exact (b.act_patience action).trans hpatience

end

end Bridge

end DesignBridge
