import DesignBridge.Proofs.Server.Ledger

/-! # Posted tasks are answered

A request that posts a task waits for its submission, and is answered once, when that has ended:
with the reply, as far as it can be written, or with the news that no executor was reached. A
request that posts anything else is refused at once.
-/

namespace DesignBridge

/-- Letting a browser see an answer changes neither its status nor what it holds. -/
theorem Cors.share_eq (origins : List String) (request : Request) (response : Response) :
    ∃ headers, share origins request response = { response with headers } := by
  unfold share setOrigin
  split
  next => split <;> exact ⟨_, rfl⟩
  next => exact ⟨_, rfl⟩

namespace Bridge

/-! ## Posts -/

section

variable {b : Bridge} {request : Request} {members : Json.Members} {task : Task}

/-- A request that posts a task joins those that wait. -/
theorem Balanced.post (hb : Balanced b) (hrelay : b.hasRelay = true) (hposts : request.PostsTask)
    (hread : Json.readBody? request.body = .ok (.object members))
    (htask : Task.read (.object members) = .accepted task) (site : SiteAnswer) :
    (b.act (.request request site)).Follows ⟨b.world.submissions.length, b.requests, request⟩ ∧
      (b.act (.request request site)).world.submissions[b.world.submissions.length]? =
        some (.fresh members) := by
  have hact : b.act (.request request site) = { b with
      requests := b.requests + 1
      world := (b.world.submit members).1
      pending := b.pending ++ [⟨b.world.submissions.length, b.requests, request⟩] } := by
    have hreact := react_of_task (b := { b with requests := b.requests + 1 }) hrelay hposts hread
      htask
    simp only [Bridge.act, takeRequest, hposts.preflight?, hposts.find, hreact]
    rfl
  have hjoined : (b.world.submit members).1.submissions[b.world.submissions.length]? =
      some (.fresh members) := by simp [World.submit]
  rw [hact]
  refine ⟨Or.inl ⟨World.outcome?_of_submission hjoined, ?_, ?_⟩, hjoined⟩
  · exact List.mem_append_right _ (List.mem_singleton_self _)
  · exact hb.unasked b.requests (Nat.le_refl _)

/-- A request that posts anything else is refused. -/
theorem Balanced.refuse (hb : Balanced b) (hposts : request.PostsTask)
    (hnot : ∀ value task, Json.readBody? request.body = .ok value →
      Task.read value ≠ .accepted task) (site : SiteAnswer) :
    ∃ response, response.status = (if Task.isExplicableBody request.body then 422 else 400) ∧
      (b.act (.request request site)).Answered b.requests response ∧
      (b.act (.request request site)).world = b.world := by
  obtain ⟨response, hreact, hstatus⟩ :=
    react_refused { b with requests := b.requests + 1 } hposts hnot
  have hact : b.act (.request request site) =
      { b with requests := b.requests + 1 }.respond b.requests request response := by
    simp only [Bridge.act, takeRequest, hposts.preflight?, hposts.find, hreact, Reaction.answer]
    rfl
  obtain ⟨headers, hshare⟩ := Cors.share_eq b.setup.origins request response
  rw [hact]
  refine ⟨_, (congrArg Response.status hshare).trans hstatus, ⟨Nat.lt_succ_self _, ?_, ?_⟩, rfl⟩
  · have hanswers := congrArg Desk.answers (desk_respond { b with requests := b.requests + 1 }
      b.requests (Cors.share b.setup.origins request response))
    exact (answersTo_of_own hanswers).trans
      (congrArg (· ++ _) (hb.unasked b.requests (Nat.le_refl _)))
  · exact fun p hp => Nat.ne_of_lt (hb.waits p hp).asked

end

/-! ## How submissions go on -/

section

variable {b : Bridge} {i : Nat} {reply : Json.Members} {mint : Nat → String}
  {allowed : RelayAction → Prop} {w after : World}

theorem via_returns (h : w.Via mint allowed after) (hother : ¬ allowed (.resume i))
    (hw : w.Returns i reply) : after.Returns i reply :=
  h.keeps (P := fun v => v.Returns i reply)
    (fun _ _ hallowed hv => hv.act mint fun heq => hother (heq ▸ hallowed))
    (fun _ events hv => hv.withEvents events) hw

theorem via_unmarked (h : w.Via mint allowed after) (hother : ¬ allowed (.cancel i))
    (hw : w.Unmarked i) : after.Unmarked i :=
  h.keeps (P := fun v => v.Unmarked i)
    (fun _ _ hallowed hv => hv.act mint fun heq => hother (heq ▸ hallowed)) (fun _ _ hv => hv) hw

theorem play_outcome? (hb : Balanced b) {outcome : Outcome}
    (h : b.world.outcome? i = some outcome) (history : List BridgeAction) :
    (b.play history).world.outcome? i = some outcome :=
  (play_induction (P := fun b => b.world.outcome? i = some outcome)
    (fun _ action hb h => (act_turn hb.silent action).1.outcome? h) hb h history).2

/-- A reply that a submission has at hand is how it ends, whatever else happens. -/
theorem play_returns (hb : Balanced b) (h : b.world.Returns i reply) {history : List BridgeAction}
    (hstep : .resume i ∈ history) :
    (b.play history).world.outcome? i = some (.replied reply) := by
  induction history generalizing b with
  | nil => cases hstep
  | cons action rest ih =>
      by_cases haction : action = .resume i
      · subst haction
        refine play_outcome? (hb.act (.resume i)) ?_ rest
        rw [Bridge.act, letRelay, absorbAll_world]
        exact h.resume b.setup.supply.taskId
      · exact ih (hb.act action) (via_returns (b.act_via action) haction h)
          ((List.mem_cons.mp hstep).resolve_left (Ne.symm haction))

/-- A frame from an executor that runs comes in at the relay. -/
theorem returns_of_frame {c : Nat} {frame : String} (hrunning : b.isRunning c = true)
    (h : (b.world.deliver c frame).1.Returns i reply) :
    (b.act (.frame c frame)).world.Returns i reply := by
  rw [Bridge.act, takeFrame, hrunning, Bool.not_true, if_neg Bool.false_ne_true]
  dsimp only
  split
  next => exact h
  next =>
    -- Where nothing can be sent any more the intake ends, but the relay keeps what came in.
    have hended : (b.world.deliver c frame).1.Via b.setup.supply.taskId
        (BridgeAction.hangUp c).Prompts
        ({ b with world := (b.world.deliver c frame).1 }.endSocket c).world :=
      via_endSocket (b := { b with world := (b.world.deliver c frame).1 }) .refl c
    exact via_returns hended (by rintro ⟨⟩) h

/-- Nobody but who cancels a submission marks it. -/
theorem play_unmarked (h : b.world.Unmarked i) {history : List BridgeAction}
    (hother : .cancel i ∉ history) : (b.play history).world.Unmarked i := by
  induction history generalizing b with
  | nil => exact h
  | cons action rest ih =>
      refine ih (via_unmarked (b.act_via action) (fun haction => hother ?_) h) fun hmem =>
        hother (List.mem_cons_of_mem _ hmem)
      obtain rfl : action = .cancel i := haction
      exact List.mem_cons_self

/-- A submission that ended as cancelled was cancelled by somebody. -/
theorem cancel_of_cancelled {members : Json.Members} {history : List BridgeAction} {s : Submission}
    (hfresh : b.world.submissions[i]? = some (.fresh members))
    (hs : (b.play history).world.submissions[i]? = some s)
    (hphase : s.phase = .finished .cancelled) : .cancel i ∈ history := by
  have hunmarked : b.world.Unmarked i := fun u hu => by
    obtain rfl := Option.some.inj (hfresh.symm.trans hu)
    exact ⟨rfl, Phase.noConfusion⟩
  exact Classical.byContradiction fun hother => (play_unmarked hunmarked hother s hs).2 hphase

end

end Bridge

/-! ## Answers -/

/-- What the answer is like to a request whose submission has ended. -/
structure Response.Concludes (answer : Response) (outcome : Outcome) : Prop where
  accepted : answer.status ≠ 422
  noPeer : answer.status = 503 ↔ ∃ reason, outcome = .noPeer reason
  success : answer.status = 200 ↔
    ∃ reply, outcome.reply? = some reply ∧ (Json.object reply).isEncodable = true
  content : ∀ reply, outcome.reply? = some reply → (Json.object reply).isEncodable = true →
    answer.content = .json (.object reply)
  faulty : ∀ reply, outcome.reply? = some reply → (Json.object reply).isEncodable = false →
    answer.status = 400
  broken : outcome.reply? = none → (∀ reason, outcome ≠ .noPeer reason) → answer.status = 500

theorem Bridge.answerFor_concludes (b : Bridge) (request : Request) (outcome : Outcome) :
    (b.answerFor request outcome).Concludes outcome := by
  obtain ⟨headers, hshare⟩ := Cors.share_eq b.setup.origins request (b.concluded outcome)
  rw [answerFor, hshare]
  cases hreply : outcome.reply? with
  | some reply =>
      have hreached : ∀ reason, outcome ≠ .noPeer reason := by
        rintro reason rfl
        cases hreply
      rcases Response.json_eq 200 (.object reply) with ⟨hencodable, heq⟩ | ⟨hnot, message, heq⟩
      · simp only [concluded, hreply, heq]
        constructor <;> simp [hreply, hreached, hencodable]
      · simp only [concluded, hreply, heq]
        constructor <;> simp [hreply, hreached, hnot, Response.faulty]
  | none =>
      cases outcome with
      | replied | invalid | timedOut => cases hreply
      | noPeer reason =>
          have hencodable : (b.errorReply reason.message).isEncodable = true := by
            simp [errorReply, Json.isEncodable_object]
          constructor <;> simp [concluded, Response.status_json, hencodable, hreply]
      | unmeasured | overlong | busy | cancelled =>
          constructor <;> simp [concluded, Response.breakdown, hreply]

namespace Bridge

section

variable {b : Bridge} {p : Pending}

theorem Follows.unanswered (h : b.Follows p) (hunended : b.world.outcome? p.submission = none) :
    b.answersTo p.number = [] := by
  obtain ⟨_, _, hanswers⟩ | ⟨outcome, hended, _⟩ := h
  · exact hanswers
  · rw [hunended] at hended
    cases hended

theorem Follows.concludes (h : b.Follows p) {outcome : Outcome}
    (hended : b.world.outcome? p.submission = some outcome) :
    ∃ answer, b.answersTo p.number = [answer] ∧ answer.Concludes outcome := by
  obtain ⟨hunended, _⟩ | ⟨outcome', hended', hanswered⟩ := h
  · rw [hunended] at hended
    cases hended
  · obtain rfl := Option.some.inj (hended.symm.trans hended')
    exact ⟨_, hanswered.answers, b.answerFor_concludes p.request outcome⟩

/-- A frame that the submission of a request waits for is what the request is answered with. -/
theorem Follows.returns (h : b.Follows p) (hb : Balanced b) {s : Submission}
    (hs : b.world.submissions[p.submission]? = some s) {deadline : Option Time} {waiter : Nat}
    (hawaits : s.phase = .awaiting deadline waiter) (hrunning : b.isRunning s.connection = true)
    {frame : String} (hanswers : b.world.Answers s.connection frame p.submission waiter)
    {reply : Json.Members} (hfits : classify s.taskId frame = .fitting reply)
    {rest : List BridgeAction} (hstep : .resume p.submission ∈ rest) :
    ∃ answer, ((b.act (.frame s.connection frame)).play rest).answersTo p.number = [answer] ∧
      answer.Concludes (.replied reply) := by
  have hreturns := returns_of_frame hrunning
    (World.returns_of_answers hb.ofTasks.orderly hs hawaits hanswers hfits)
  have hframe := hb.act (.frame s.connection frame)
  exact (play_follows hframe (h.act hb _) rest).2.concludes (play_returns hframe hreturns hstep)

end

/-- What becomes of a request that posts JSON to the endpoint of tasks, whatever happened before
and happens after. If it holds a task, its members are submitted as they came. It has no answer as
long as the submission has not ended, and then one: of status 503 if no executor was reached, and if
there is a reply of status 200 with the reply unchanged, unless that cannot be written, which counts
as a fault of the request. A frame for the submission, once it waits, that is no heartbeat and
carries no other id is that reply. A request that holds no task is refused at once. -/
theorem posted_task_answered (setup : BridgeSetup) (env : Environment) (client : SiteClient)
    (before after : List BridgeAction) {request : Request} (hposts : request.PostsTask)
    (site : SiteAnswer) :
    let b := (started setup env client).play before
    let i := b.world.submissions.length
    let later := (b.act (.request request site)).play after
    (∀ members task, Json.readBody? request.body = .ok (.object members) →
      Task.read (.object members) = .accepted task →
      ∃ s, later.world.submissions[i]? = some s ∧ s.body = members ∧
        (s.phase.outcome? = none → later.answersTo b.requests = []) ∧
        (∀ outcome, s.phase = .finished outcome →
          outcome.OfTask (.ofNumber setup.timeout) ∧ (outcome = .cancelled → .cancel i ∈ after) ∧
          ∃ answer, later.answersTo b.requests = [answer] ∧ answer.Concludes outcome) ∧
        ∀ deadline waiter frame reply, s.phase = .awaiting deadline waiter →
          later.isRunning s.connection = true →
          later.world.Answers s.connection frame i waiter →
          classify s.taskId frame = .fitting reply → ∀ rest, .resume i ∈ rest →
          ∃ answer, ((later.act (.frame s.connection frame)).play rest).answersTo b.requests =
            [answer] ∧ answer.Concludes (.replied reply)) ∧
    ((∀ value task, Json.readBody? request.body = .ok value → Task.read value ≠ .accepted task) →
      (b.act (.request request site)).world = b.world ∧
      ∃ answer, later.answersTo b.requests = [answer] ∧
        answer.status = if Task.isExplicableBody request.body then 422 else 400) := by
  intro b i later
  obtain ⟨hb, hrelay, hpatience⟩ := play_started setup env client before
  have hasked := hb.act (.request request site)
  refine ⟨fun members task hread htask => ?_, fun hnot => ?_⟩
  · obtain ⟨hfollows, hfresh⟩ := hb.post hrelay hposts hread htask site
    obtain ⟨hlater, hfollows⟩ := play_follows hasked hfollows after
    obtain ⟨s, hs, hbody⟩ := play_body ⟨_, hfresh, rfl⟩ after
    have houtcome := World.outcome?_of_submission hs
    have hwhole : later.world.patience = .ofNumber setup.timeout :=
      (play_patience _ after).trans ((b.act_patience _).trans hpatience)
    refine ⟨s, hs, hbody, fun hunended => ?_, fun outcome hphase => ?_, ?_⟩
    · exact hfollows.unanswered (houtcome.trans hunended)
    · have hended := houtcome.trans (Phase.outcome?_eq_some.mpr hphase)
      refine ⟨hwhole ▸ hlater.ofTasks.ends i outcome hended, ?_, hfollows.concludes hended⟩
      rintro rfl
      exact cancel_of_cancelled hfresh hs hphase
    · intro deadline waiter frame reply hawaits hrunning hanswers hfits rest hstep
      exact hfollows.returns hlater hs hawaits hrunning hanswers hfits hstep
  · obtain ⟨answer, hstatus, hanswered, hworld⟩ := hb.refuse hposts hnot site
    exact ⟨hworld, answer, (play_answered hasked hanswered after).answers, hstatus⟩

/-- A request that posts JSON, from nowhere in particular. -/
def posting (body : List UInt8) : Request :=
  ⟨"POST", "/task", "", [("content-type", "application/json")], body⟩

theorem posting_postsTask (body : List UInt8) : (posting body).PostsTask :=
  have hjson : Body.isJsonType "application/json" = true := by decide +kernel
  ⟨rfl, rfl, hjson⟩

/-- A task that waits gets its reply, and what is no task is refused. -/
theorem posted_task_answered_once :
    let b := justStarted.play [.connect "designer"]
    let task : Json := .object [("ops", .list []), ("taskId", .text "new")]
    let later := (b.act (.request (posting task.bytes) (.failed .noClientId))).play [.resume 0]
    (∃ answer, ((later.act (.frame 0 World.newReply)).play [.resume 0]).answersTo 0 = [answer] ∧
      answer.status = 200) ∧
      ∃ answer,
        (b.act (.request (posting (Json.list []).bytes) (.failed .noClientId))).answersTo 0 =
          [answer] ∧ answer.status = 422 := by
  intro b task later
  constructor
  · have hread : Json.readBody? (posting task.bytes).body = .ok task :=
      (Json.lasts_iff.mpr rfl).readBody?_bytes (by decide +kernel)
    obtain ⟨s, hs, _, _, _, hframe⟩ := (posted_task_answered _ _ _ [.connect "designer"] [.resume 0]
      (posting_postsTask task.bytes) (.failed .noClientId)).1 _ _ hread rfl
    have hs : later.world.submissions[0]? = some s := hs
    have hexpects : later.world.expects 0 World.newReply true = true := by decide +kernel
    obtain ⟨s', deadline, waiter, port, reply, h, hawaiting⟩ := World.of_expects hexpects
    obtain rfl := Option.some.inj (hs.symm.trans h.submission)
    have hconnection : (later.world.submissions[0]?).all (·.connection == 0) = true := by
      decide +kernel
    rw [hs, Option.all_some, beq_iff_eq] at hconnection
    have hlater : Balanced later :=
      (((started_balanced _ _ _).play [.connect "designer"]).act _).play [.resume 0]
    have hanswers := h.answers hlater.ofTasks.orderly hawaiting
    have hrunning : later.isRunning s.connection = true := by
      rw [hconnection]
      decide +kernel
    obtain ⟨answer, hanswer, hconcludes⟩ :=
      hframe deadline waiter _ reply h.awaits hrunning hanswers h.fits [.resume 0]
        (List.mem_singleton_self _)
    rw [hconnection] at hanswer
    have hencodable :
        (Frame.reply? World.newReply).all (fun r => (Json.object r).isEncodable) = true := by
      decide +kernel
    rw [h.object, Option.all_some] at hencodable
    exact ⟨answer, hanswer, hconcludes.success.mpr ⟨reply, rfl, hencodable⟩⟩
  · have hread : Json.readBody? (posting (Json.list []).bytes).body = .ok (.list []) :=
      (Json.lasts_iff.mpr rfl).readBody?_bytes (by decide +kernel)
    obtain ⟨_, answer, hanswer, hstatus⟩ := (posted_task_answered _ _ _ [.connect "designer"] []
      (posting_postsTask (Json.list []).bytes) (.failed .noClientId)).2 fun value task hvalue => by
        obtain rfl := Except.ok.inj (hread.symm.trans hvalue)
        rintro ⟨⟩
    have hexplicable : Task.isExplicableBody (posting (Json.list []).bytes).body = true := by
      decide +kernel
    rw [if_pos hexplicable] at hstatus
    exact ⟨answer, hanswer, hstatus⟩

/-- A reply with a number that is not finite, such as executors can send. -/
def unfiniteReply : String := "\x7b\"ok\": true, \"taskId\": \"new\", \"size\": NaN\x7d"

/-- A reply with half of a surrogate pair, which they can send as well. -/
def halvedReply : String := "\x7b\"ok\": true, \"taskId\": \"new\", \"name\": \"\\ud800\"\x7d"

/-- What cannot be written makes a request count as faulty: that of a task to which such a reply was
returned, and one that is no task because of a number that is not finite. -/
theorem unencodable_reply_faulty :
    let task : Json := .object [("ops", .list []), ("taskId", .text "new")]
    let answered (reply : String) := justStarted.play [.connect "designer",
      .request (posting task.bytes) (.failed .noClientId), .resume 0, .frame 0 reply, .resume 0]
    (∀ reply ∈ [unfiniteReply, halvedReply],
      ((answered reply).world.submissions[0]?).any Submission.hasReplied = true ∧
        ((answered reply).answersTo 0).map Response.status = [400]) ∧
      ((justStarted.act (.request (posting (Utf8.encode "\x7b\"ops\": NaN\x7d".toList))
        (.failed .noClientId))).answersTo 0).map Response.status = [400] := by
  decide +kernel

end Bridge

end DesignBridge
