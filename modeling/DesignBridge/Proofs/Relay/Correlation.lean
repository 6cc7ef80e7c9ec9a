import DesignBridge.Proofs.Relay.Exclusion

/-! # Replies belong to their submissions

Where a reply that is returned comes from. The history up to any moment tells for every answered
waiter which delivery answered it, for every submission that waits by which step its task was sent,
and for every submission that returned a reply by which step it did so. Every action extends this
record by its own part and leaves the rest.
-/

namespace DesignBridge

/-- Whether a submission that has been settled carries its id in its wire form. A submission that
ends without a reply need not have come so far. -/
def Submission.Labelled (s : Submission) : Prop :=
  s.phase = .fresh ∨ (∃ outcome, s.phase = .finished outcome ∧ ∀ reply, outcome ≠ .replied reply) ∨
    s.wire.lookup ↑"taskId" = some s.taskId

/-- Decides whether a submission has returned an executor's reply. -/
def Submission.hasReplied (s : Submission) : Bool :=
  match s.phase with
  | .finished (.replied _) => true
  | _ => false

theorem Submission.of_hasReplied {s : Submission} (h : s.hasReplied = true) :
    ∃ reply, s.phase = .finished (.replied reply) := by
  unfold hasReplied at h
  split at h
  next reply hphase => exact ⟨reply, hphase⟩
  next => cases h

theorem Submission.settle_labelled (mint : Nat → String) (minted c : Nat) (s : Submission) :
    (s.settle mint minted c).wire.lookup ↑"taskId" = some (s.settle mint minted c).taskId := by
  unfold settle
  split
  next id hid => exact (Option.filter_eq_some_iff.mp hid).1
  next => simp [Entries.lookup_put]

section

variable {mint : Nat → String} {w : World} {i c : Nat} {s t : Submission} {port after : Port}
  {phase : Phase} {news : List RelayEvent}

/-- Whoever comes through the gate has no reply yet. -/
theorem Entry.not_replied (h : Entry w i c s port phase after news) (reply : Json.Members) :
    phase ≠ .finished (.replied reply) := by
  cases h <;> simp

/-- Whoever waits behind the gate has sent its task. -/
theorem Entry.sent_of_awaiting (h : Entry w i c s port phase after news)
    {deadline : Option Time} {waiter : Nat} (hphase : phase = .awaiting deadline waiter) :
    .sent c s.payload ∈ news := by
  cases h with
  | sent => exact List.mem_singleton.mpr rfl
  | _ => cases hphase

theorem Move.labelled {before then_ : Option Port} (h : Move mint w i c s before t then_ news)
    (hs : s.Labelled) : t.Labelled := by
  have hold : s.phase ≠ .fresh → (∀ outcome, s.phase ≠ .finished outcome) →
      s.wire.lookup ↑"taskId" = some s.taskId := by
    intro hfresh hfinished
    obtain hphase | ⟨outcome, hphase, _⟩ | hlabel := hs
    · exact absurd hphase hfresh
    · exact absurd hphase (hfinished outcome)
    · exact hlabel
  cases h with
  | rested => exact hs
  | abandoned | alone | unopened | withdrew | overdue =>
      exact Or.inr (Or.inl ⟨_, rfl, fun reply => by simp⟩)
  | joined | entered => exact Or.inr (Or.inr (Submission.settle_labelled mint w.minted c s))
  | called hphase | sent hphase | rearmed hphase =>
      exact Or.inr (Or.inr (hold (by simp [hphase]) (by simp [hphase])))
  | ended _ hending =>
      have hwaiter := hending.waiter?
      refine Or.inr (Or.inr (hold (fun hphase => ?_) (fun outcome hphase => ?_)))
      · rw [hphase] at hwaiter
        cases hwaiter
      · rw [hphase] at hwaiter
        cases hwaiter

/-- Whoever begins to wait has just sent its task, or did so before it got a stale reply. -/
theorem Move.sent_of_awaiting {before then_ : Option Port}
    (h : Move mint w i c s before t then_ news) {deadline : Option Time} {waiter : Nat}
    (hphase : t.phase = .awaiting deadline waiter) :
    .sent t.connection t.payload ∈ news ∨
      ((∃ old, s.phase = .awaiting deadline old) ∧ t.connection = s.connection ∧
        t.payload = s.payload) := by
  cases h with
  | rested => exact Or.inr ⟨⟨waiter, hphase⟩, rfl, rfl⟩
  | rearmed hwaits =>
      cases hphase
      exact Or.inr ⟨⟨_, hwaits⟩, rfl, rfl⟩
  | entered _ _ _ _ hentry =>
      have hsent := hentry.sent_of_awaiting hphase
      exact Or.inl (by simpa [Submission.settle_connection, Submission.payload] using hsent)
  | called _ hc _ _ hentry =>
      have hsent := hentry.sent_of_awaiting hphase
      exact Or.inl (by simpa [hc, Submission.payload] using hsent)
  | sent _ hc => exact Or.inl (by simp [hc, Submission.payload])
  | joined =>
      rw [Submission.settle_phase] at hphase
      cases hphase
  | _ => cases hphase

/-- A submission returns a reply only by the step that takes up the frame its waiter has got. -/
theorem Move.replied {before then_ : Option Port} (h : Move mint w i c s before t then_ news)
    {reply : Json.Members} (hphase : t.phase = .finished (.replied reply)) :
    t = s ∨ ∃ deadline waiter port frame, s.phase = .awaiting deadline waiter ∧
      s.connection = c ∧ before = some port ∧
      port.connection.waiters[waiter]? = some (.answered frame) ∧
      classify s.taskId frame = .fitting reply ∧ t = { s with phase := t.phase } := by
  cases h with
  | rested => exact Or.inl rfl
  | entered _ _ _ _ hentry | called _ _ _ _ hentry => exact absurd hphase (hentry.not_replied reply)
  | joined =>
      rw [Submission.settle_phase] at hphase
      cases hphase
  | ended hc hending =>
      cases hphase
      cases hending with
      | replied hwaits hframe hreply =>
          exact Or.inr ⟨_, _, _, _, hwaits, hc, rfl, hframe, hreply, rfl⟩
  | _ => cases hphase

end

namespace World

/-- Whether a waiter of a connection has got a frame. -/
def HasReply (w : World) (c waiter : Nat) (frame : String) : Prop :=
  ∃ port, w.ports[c]? = some port ∧ port.connection.waiters[waiter]? = some (.answered frame)

/-- Whether a frame that comes in on a connection now is for the waiter of a submission: the
submission is in an exchange there and its waiter is armed, the connection is open and the frame is
no heartbeat. -/
structure Answers (w : World) (c : Nat) (frame : String) (i waiter : Nat) : Prop where
  exchange : w.Exchanges c i waiter
  port : ∃ port, w.ports[c]? = some port ∧ port.connection.closed = false ∧
    port.connection.isArmed waiter = true
  regular : Frame.isHeartbeat frame = false

section

variable (mint : Nat → String) (w : World)

/-- Whether a step of a submission in a history has sent a payload. -/
def SentIn (history : List RelayAction) (i c : Nat) (payload : String) : Prop :=
  ∃ first rest news, history = first ++ .resume i :: rest ∧
    (w.play mint (first ++ [.resume i])).events = (w.play mint first).events ++ news ∧
    .sent c payload ∈ news

/-- Whether a delivery in a history has answered a waiter of a submission. -/
def AnsweredIn (history : List RelayAction) (c : Nat) (frame : String) (i waiter : Nat) : Prop :=
  ∃ before rest, history = before ++ .deliver c frame :: rest ∧
    (w.play mint before).Answers c frame i waiter

/-- Whether a submission can take up a frame as its reply: it waits, its waiter has got the frame,
and the frame fits. -/
structure TakesUp (i : Nat) (s : Submission) (waiter : Nat) (frame : String)
    (reply : Json.Members) : Prop where
  submission : w.submissions[i]? = some s
  awaits : ∃ deadline, s.phase = .awaiting deadline waiter
  answered : w.HasReply s.connection waiter frame
  fits : classify s.taskId frame = .fitting reply

/-- Whether a step of a submission in a history has returned a reply. -/
def ReturnedIn (history : List RelayAction) (i : Nat) (s : Submission)
    (reply : Json.Members) : Prop :=
  ∃ first rest t waiter frame, history = first ++ .resume i :: rest ∧
    (w.play mint first).TakesUp i t waiter frame reply ∧
    s = { t with phase := s.phase, cancelled := s.cancelled } ∧
    AnsweredIn mint w first t.connection frame i waiter ∧
    SentIn mint w first i t.connection t.payload

/-- What a history tells about the world after it. -/
structure Record (history : List RelayAction) : Prop where
  answered : ∀ c i waiter frame, (w.play mint history).Exchanges c i waiter →
    (w.play mint history).HasReply c waiter frame → AnsweredIn mint w history c frame i waiter
  sent : ∀ (i : Nat) (s : Submission) deadline waiter,
    (w.play mint history).submissions[i]? = some s → s.phase = .awaiting deadline waiter →
    SentIn mint w history i s.connection s.payload
  returned : ∀ (i : Nat) (s : Submission) reply,
    (w.play mint history).submissions[i]? = some s → s.phase = .finished (.replied reply) →
    ReturnedIn mint w history i s reply
  labelled : ∀ (i : Nat) (s : Submission), (w.play mint history).submissions[i]? = some s →
    s.Labelled

end

section

variable {mint : Nat → String} {w : World} {history : List RelayAction}

theorem SentIn.extend {i c : Nat} {payload : String} (h : SentIn mint w history i c payload)
    (action : RelayAction) : SentIn mint w (history ++ [action]) i c payload := by
  obtain ⟨first, rest, news, rfl, hnews, hsent⟩ := h
  exact ⟨first, rest ++ [action], news, by simp, hnews, hsent⟩

theorem AnsweredIn.extend {c i waiter : Nat} {frame : String}
    (h : AnsweredIn mint w history c frame i waiter) (action : RelayAction) :
    AnsweredIn mint w (history ++ [action]) c frame i waiter := by
  obtain ⟨before, rest, rfl, hanswers⟩ := h
  exact ⟨before, rest ++ [action], by simp, hanswers⟩

theorem ReturnedIn.extend {i : Nat} {s : Submission} {reply : Json.Members}
    (h : ReturnedIn mint w history i s reply) (action : RelayAction) :
    ReturnedIn mint w (history ++ [action]) i s reply := by
  obtain ⟨first, rest, t, waiter, frame, rfl, hreturned⟩ := h
  exact ⟨first, rest ++ [action], t, waiter, frame, by simp, hreturned⟩

theorem play_snoc (action : RelayAction) :
    w.play mint (history ++ [action]) = (w.play mint history).act mint action :=
  play_append mint w history [action]

/-! ## Steps -/

theorem hasReply_congr {v after : World} {c : Nat}
    (h : (after.ports[c]?).map Port.connection = (v.ports[c]?).map Port.connection) (waiter : Nat)
    (frame : String) : after.HasReply c waiter frame ↔ v.HasReply c waiter frame := by
  have hreply : ∀ u : World, u.HasReply c waiter frame ↔
      ∃ connection, (u.ports[c]?).map Port.connection = some connection ∧
        connection.waiters[waiter]? = some (.answered frame) := by
    intro u
    simp only [Option.map_eq_some_iff]
    constructor
    · rintro ⟨port, hport, hframe⟩
      exact ⟨_, ⟨port, hport, rfl⟩, hframe⟩
    · rintro ⟨_, ⟨port, hport, rfl⟩, hframe⟩
      exact ⟨port, hport, hframe⟩
  rw [hreply, hreply, h]

/-- An answered waiter of an exchange after a step was answered before it. -/
theorem Moved.answered {v after : World} {i j c waiter : Nat} {s : Submission} {frame : String}
    (h : Moved mint v after i s) (hs : v.submissions[i]? = some s) (horderly : v.Orderly)
    (hexchange : after.Exchanges c j waiter) (hreply : after.HasReply c waiter frame) :
    v.Exchanges c j waiter ∧ v.HasReply c waiter frame := by
  have ⟨d, t, port', news, hmove, hdiffers, _⟩ := h
  by_cases hj : j = i
  · subst hj
    have ht := (exchanges_iff hdiffers.submission c waiter).mp hexchange
    by_cases hc : c = d
    · subst hc
      obtain ⟨port, hport, hframe⟩ := hreply
      rw [hdiffers.port] at hport
      obtain ⟨hsame, f, hnext, hkept⟩ | ⟨p, next, hp, hnext, _, hwaits⟩ := hmove.serves
      · rw [hnext, Option.map_eq_some_iff] at hport
        obtain ⟨p, hp, rfl⟩ := hport
        rw [(hkept p none hp).1] at hframe
        exact ⟨(exchanges_iff hs c waiter).mpr (hsame.symm.trans ht), p, hp, hframe⟩
      · rw [hnext] at hport
        obtain rfl := Option.some.inj hport
        exact absurd hframe (hwaits waiter frame ht)
    · rw [hmove.elsewhere hc] at ht
      refine ⟨(exchanges_iff hs c waiter).mpr ht, ?_⟩
      exact (hasReply_congr (by rw [hdiffers.ports c hc]) waiter frame).mp hreply
  -- Someone else's exchange: the step leaves its connection alone.
  · have hother := (exchanges_congr (hdiffers.submissions j hj) c waiter).mp hexchange
    have hconnection := h.connection_of_other hs horderly hother hj
    exact ⟨hother, (hasReply_congr hconnection waiter frame).mp hreply⟩

/-- An answered waiter of an exchange after an action from outside was answered before it, or is
answered by it. -/
theorem Outside.answered {v after : World} {action : RelayAction} {c i waiter : Nat}
    {frame : String} (h : Outside v action after) (horderly : v.Orderly)
    (hexchange : after.Exchanges c i waiter) (hreply : after.HasReply c waiter frame) :
    v.Exchanges c i waiter ∧
      (v.HasReply c waiter frame ∨ action = .deliver c frame ∧ v.Answers c frame i waiter) := by
  have hbefore := (h.exchanges_iff c i waiter).mp hexchange
  refine ⟨hbefore, ?_⟩
  obtain ⟨port, hport, hholds⟩ := horderly.holds hbefore
  obtain ⟨next, hnext, htouch⟩ := h.port c port hport
  obtain ⟨next', hnext', hframe⟩ := hreply
  obtain rfl := Option.some.inj (hnext.symm.trans hnext')
  cases htouch with
  | untouched | linked | closed | withdrew => exact Or.inl ⟨port, hport, hframe⟩
  | delivered f =>
      cases hanswered : (port.connection.deliver f).2 with
      | none =>
          rw [(Connection.deliver_unanswered hanswered).1] at hframe
          exact Or.inl ⟨port, hport, hframe⟩
      | some n =>
          obtain ⟨hopen, hbeat, hslot, harmed, hafter⟩ := Connection.deliver_answers hanswered
          have hn : n = waiter := Classical.byContradiction fun hne => by
            rw [hholds.others n hne] at harmed
            cases harmed
          subst hn
          have hlt : n < port.connection.waiters.length :=
            (List.getElem?_eq_some_iff.mp (Connection.isArmed_iff.mp harmed)).1
          rw [hafter] at hframe
          simp only [Connection.setWaiter, List.getElem?_set_self hlt, Option.some.injEq,
            Waiter.answered.injEq] at hframe
          subst hframe
          exact Or.inr ⟨rfl, hbefore, ⟨port, hport, hopen, harmed⟩, hbeat⟩

/-! ## Runs -/

theorem Record.start (mint : Nat → String) (patience : Patience) :
    Record mint (fresh patience) [] := by
  constructor
  case answered =>
    rintro c i waiter frame ⟨s, hs, _⟩
    simp [fresh] at hs
  case sent | returned | labelled => simp [fresh]

/-- A step of a submission is added to the record. -/
theorem Record.moved (h : Record mint w history) (horderly : (w.play mint history).Orderly)
    {i : Nat} {s : Submission} (hs : (w.play mint history).submissions[i]? = some s)
    (hmoved : Moved mint (w.play mint history) (w.play mint (history ++ [.resume i])) i s) :
    Record mint w (history ++ [.resume i]) := by
  have ⟨c, t, port', news, hmove, hdiffers, _⟩ := hmoved
  constructor
  case answered =>
    intro d j waiter frame hexchange hreply
    obtain ⟨hexchange, hreply⟩ := hmoved.answered hs horderly hexchange hreply
    exact (h.answered d j waiter frame hexchange hreply).extend _
  case sent =>
    intro j u deadline waiter hu hawaits
    by_cases hj : j = i
    · subst hj
      obtain rfl := Option.some.inj (hdiffers.submission.symm.trans hu)
      -- Either the step has just sent the task, or it renewed the wait behind a stale reply.
      rcases hmove.sent_of_awaiting hawaits with hsent | ⟨⟨old, hold⟩, hconnection, hpayload⟩
      · exact ⟨history, [], news, rfl, hdiffers.events, hsent⟩
      · rw [hconnection, hpayload]
        exact (h.sent j s deadline old hs hold).extend _
    · rw [hdiffers.submissions j hj] at hu
      exact (h.sent j u deadline waiter hu hawaits).extend _
  case returned =>
    intro j u reply hu hreturned
    by_cases hj : j = i
    · subst hj
      obtain rfl := Option.some.inj (hdiffers.submission.symm.trans hu)
      rcases hmove.replied hreturned with rfl | ⟨deadline, waiter, p, frame, hawaits, hc, hp,
        hframe, hfits, hafter⟩
      · exact (h.returned j t reply hs hreturned).extend _
      · subst hc
        have hreply : (w.play mint history).HasReply s.connection waiter frame := ⟨p, hp, hframe⟩
        have hexchange : (w.play mint history).Exchanges s.connection j waiter :=
          ⟨s, hs, (Submission.waiterAt?_of_eq rfl).trans (congrArg Phase.waiter? hawaits)⟩
        refine ⟨history, [], s, waiter, frame, rfl, ⟨hs, ⟨deadline, hawaits⟩, hreply, hfits⟩, ?_,
          h.answered _ j waiter frame hexchange hreply, h.sent j s deadline waiter hs hawaits⟩
        rw [hafter]
    · rw [hdiffers.submissions j hj] at hu
      exact (h.returned j u reply hu hreturned).extend _
  case labelled =>
    intro j u hu
    by_cases hj : j = i
    · subst hj
      obtain rfl := Option.some.inj (hdiffers.submission.symm.trans hu)
      exact hmove.labelled (h.labelled j s hs)
    · rw [hdiffers.submissions j hj] at hu
      exact h.labelled j u hu

/-- So is an action from outside. -/
theorem Record.outside (h : Record mint w history) (horderly : (w.play mint history).Orderly)
    {action : RelayAction}
    (houtside : Outside (w.play mint history) action (w.play mint (history ++ [action]))) :
    Record mint w (history ++ [action]) := by
  -- Whoever has come further than its first step was there before, apart from the mark of being
  -- cancelled.
  have hbefore : ∀ (i : Nat) (t : Submission),
      (w.play mint (history ++ [action])).submissions[i]? = some t → t.phase ≠ .fresh →
      ∃ s cancelled, (w.play mint history).submissions[i]? = some s ∧
        t = { s with cancelled } := by
    intro i t ht hphase
    cases hs : (w.play mint history).submissions[i]? with
    | some s =>
        obtain ⟨cancelled, hafter⟩ := houtside.submission i s hs
        exact ⟨s, cancelled, rfl, Option.some.inj (ht.symm.trans hafter)⟩
    | none =>
        obtain ⟨body, _, rfl⟩ := houtside.joined i t ht hs
        exact absurd rfl hphase
  constructor
  case answered =>
    intro c i waiter frame hexchange hreply
    rcases houtside.answered horderly hexchange hreply with ⟨hexchange, hreply | ⟨rfl, hanswers⟩⟩
    · exact (h.answered c i waiter frame hexchange hreply).extend _
    · exact ⟨history, [], rfl, hanswers⟩
  case sent =>
    intro i t deadline waiter ht hawaits
    obtain ⟨s, cancelled, hs, rfl⟩ := hbefore i t ht (by simp [hawaits])
    exact (h.sent i s deadline waiter hs hawaits).extend _
  case returned =>
    intro i t reply ht hreturned
    obtain ⟨s, cancelled, hs, rfl⟩ := hbefore i t ht (by simp [hreturned])
    obtain ⟨first, rest, u, waiter, frame, rfl, htakes, hu, htrail⟩ := h.returned i s reply hs
      hreturned
    refine ⟨first, rest ++ [action], u, waiter, frame, by simp, htakes, ?_, htrail⟩
    rw [hu]
  case labelled =>
    intro i t ht
    by_cases hphase : t.phase = .fresh
    · exact Or.inl hphase
    · obtain ⟨s, cancelled, hs, rfl⟩ := hbefore i t ht hphase
      exact h.labelled i s hs

theorem Record.append (h : Record mint w history) (horderly : (w.play mint history).Orderly)
    (rest : List RelayAction) : Record mint w (history ++ rest) := by
  induction rest generalizing history with
  | nil => simpa using h
  | cons action rest ih =>
      have hnext : Record mint w (history ++ [action]) := by
        have hcases := act_cases mint (w.play mint history) action
        rw [← play_snoc] at hcases
        rcases hcases with ⟨i, s, rfl, _, hs, hmoved⟩ | houtside
        · exact h.moved horderly hs hmoved
        · exact h.outside horderly houtside
      have horderly' : (w.play mint (history ++ [action])).Orderly := by
        rw [play_snoc]
        exact act_orderly mint _ action horderly
      simpa using ih hnext horderly'

/-- The record of every history. -/
theorem record (mint : Nat → String) (patience : Patience) (history : List RelayAction) :
    Record mint (fresh patience) history := by
  have h := (Record.start mint patience).append (fresh_orderly patience) history
  simpa using h

end

/-- Whether a submission takes up a frame that was delivered after one part of a history, once
another part has followed: the frame was for its waiter, and that waiter holds it at the end. -/
def Consumes (mint : Nat → String) (w : World) (before : List RelayAction) (c : Nat)
    (frame : String) (middle : List RelayAction) (i : Nat) (reply : Json.Members) : Prop :=
  ∃ waiter s, (w.play mint before).Answers c frame i waiter ∧ s.connection = c ∧
    (w.play mint (before ++ .deliver c frame :: middle)).TakesUp i s waiter frame reply

theorem classify_fitting {taskId : Json} {frame : String} {reply : Json.Members}
    (h : classify taskId frame = .fitting reply) :
    Frame.reply? frame = some reply ∧
      ∀ id, reply.lookup ↑"taskId" = some id → id = .null ∨ Json.same id taskId = true := by
  unfold classify at h
  split at h
  next => cases h
  next members hmembers =>
    have hsame : reply = members → ∀ id, reply.lookup ↑"taskId" = some id →
        members.lookup ↑"taskId" = some id := fun heq id hid => heq ▸ hid
    split at h
    next hnone =>
      obtain rfl := ReplyClass.fitting.inj h
      exact ⟨hmembers, fun id hid => by rw [hnone] at hid; cases hid⟩
    next hnull =>
      obtain rfl := ReplyClass.fitting.inj h
      exact ⟨hmembers, fun id hid => Or.inl (Option.some.inj (hid.symm.trans hnull))⟩
    next other hother =>
      split at h
      next hfits =>
        obtain rfl := ReplyClass.fitting.inj h
        refine ⟨hmembers, fun id hid => Or.inr ?_⟩
        obtain rfl := Option.some.inj (hid.symm.trans hother)
        exact hfits
      next => cases h

/-- A submission that has returned a reply took up a frame that came in on its connection. -/
theorem ReturnedIn.consumes {mint : Nat → String} {w : World} {history : List RelayAction} {i : Nat}
    {s : Submission} {reply : Json.Members} (h : ReturnedIn mint w history i s reply) :
    ∃ before frame middle rest,
      history = before ++ .deliver s.connection frame :: middle ++ .resume i :: rest ∧
      Consumes mint w before s.connection frame middle i reply ∧
      SentIn mint w (before ++ .deliver s.connection frame :: middle) i s.connection s.payload ∧
      Frame.isHeartbeat frame = false ∧ classify s.taskId frame = .fitting reply := by
  obtain ⟨first, rest, t, waiter, frame, hhistory, htakes, hst, hanswered, hsent⟩ := h
  have hconnection : s.connection = t.connection := by rw [hst]
  have hpayload : s.payload = t.payload := by rw [hst]; rfl
  have hid : s.taskId = t.taskId := by rw [hst]
  obtain ⟨before, middle, rfl, hanswers⟩ := hanswered
  rw [hconnection, hpayload, hid]
  exact ⟨before, frame, middle, rest, hhistory, ⟨waiter, t, hanswers, rfl, htakes⟩, hsent,
    hanswers.regular, htakes.fits⟩

/-- Whatever happens, a submission that returns an executor's reply returns the object of a frame
that came in on the connection on which its task was sent, while that was open, its waiter was
armed, and before it returned. The frame is no heartbeat and carries no id, or null, or the id that
was sent with the task. No frame that came in is taken up by two submissions. -/
theorem replies_correlate (mint : Nat → String) (patience : Patience)
    (history : List RelayAction) :
    (∀ (i : Nat) (s : Submission) (reply : Json.Members),
      ((fresh patience).play mint history).submissions[i]? = some s →
      s.phase = .finished (.replied reply) →
      ∃ before frame middle rest,
        history = before ++ .deliver s.connection frame :: middle ++ .resume i :: rest ∧
        Consumes mint (fresh patience) before s.connection frame middle i reply ∧
        SentIn mint (fresh patience) (before ++ .deliver s.connection frame :: middle) i
          s.connection s.payload ∧
        s.wire.lookup ↑"taskId" = some s.taskId ∧
        Frame.isHeartbeat frame = false ∧ Frame.reply? frame = some reply ∧
        ∀ id, reply.lookup ↑"taskId" = some id → id = .null ∨ Json.same id s.taskId = true) ∧
    ∀ before c frame rest, history = before ++ .deliver c frame :: rest →
      ∀ middle i reply middle' j reply',
        Consumes mint (fresh patience) before c frame middle i reply →
        Consumes mint (fresh patience) before c frame middle' j reply' → i = j := by
  constructor
  · intro i s reply hs hphase
    have hrecord := record mint patience history
    obtain ⟨before, frame, middle, rest, hhistory, hconsumes, hsent, hregular, hclass⟩ :=
      (hrecord.returned i s reply hs hphase).consumes
    obtain ⟨hreply, hfits⟩ := classify_fitting hclass
    have hlabel : s.wire.lookup ↑"taskId" = some s.taskId := by
      rcases hrecord.labelled i s hs with hfresh | ⟨outcome, houtcome, hnot⟩ | hlabel
      · rw [hphase] at hfresh
        cases hfresh
      · rw [hphase] at houtcome
        exact absurd (Phase.finished.inj houtcome).symm (hnot reply)
      · exact hlabel
    exact ⟨before, frame, middle, rest, hhistory, hconsumes, hsent, hlabel, hregular, hreply, hfits⟩
  -- At most one submission is in an exchange on a connection, and the frame was for that one.
  · rintro before c frame rest - middle i reply middle' j reply' ⟨n, _, hi, _⟩ ⟨m, _, hj, _⟩
    exact (play_orderly mint patience before).alone hi.exchange hj.exchange

/-- A history in which a task is sent and its reply comes in behind a stale one. -/
def answeredOnce : List RelayAction :=
  [.connect "designer", .submit [("ops", .list []), ("taskId", .text "new")], .resume 0,
    .deliver 0 "\x7b\"ok\": true, \"taskId\": \"old\"\x7d", .resume 0,
    .deliver 0 "\x7b\"ok\": true, \"taskId\": \"new\"\x7d", .resume 0]

/-- The reply that is returned there came in on the connection of the task. -/
theorem replies_correlate_answered :
    ∃ (s : Submission) (reply : Json.Members) (before middle rest : List RelayAction)
      (frame : String),
      answeredOnce = before ++ .deliver s.connection frame :: middle ++ .resume 0 :: rest ∧
      Consumes (fun _ => "") (fresh (.lasting 10)) before s.connection frame middle 0 reply := by
  have hreplied : (((fresh (.lasting 10)).play (fun _ => "") answeredOnce).submissions[0]?).any
      Submission.hasReplied = true := by decide +kernel
  obtain ⟨s, hs, hreply⟩ := (Option.any_eq_true _ _).mp hreplied
  obtain ⟨reply, hphase⟩ := Submission.of_hasReplied hreply
  obtain ⟨before, frame, middle, rest, hhistory, hconsumes, _⟩ :=
    (replies_correlate (fun _ => "") (.lasting 10) answeredOnce).1 0 s reply hs hphase
  exact ⟨s, reply, before, middle, rest, frame, hhistory, hconsumes⟩

end World

end DesignBridge
