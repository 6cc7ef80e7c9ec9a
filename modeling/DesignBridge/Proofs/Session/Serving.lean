import DesignBridge.Proofs.Session.Label
import DesignBridge.Session.Run

/-! # Serving a connection

An executor answers the frames of a connection in the order in which they come, each with one reply,
as long as it can put the replies together. It cannot when the id of a task is neither a text nor
null: then the operations were run, no reply is sent, and serving ends with the fault.
-/

namespace DesignBridge

/-- Whether a value can be the id in a reply: a text, or null for none. -/
def Json.isLabel : Json → Bool
  | .null | .text _ => true
  | _ => false

namespace Session

/-- Whether a frame can be answered: it holds no task, or one whose id can be put into a reply. -/
def isAnswerable (frame : String) : Bool :=
  match taskOf frame with
  | .error _ => true
  | .ok (_, id) => id.isLabel

/-- What is said of a task id that cannot be put into a reply. -/
def idIssue : Issue := ⟨[.key Reply.idKey.plain], .textExpected⟩

/-- The document after a number of frames, whether or not they were answered. -/
def documentAfter (i : Interpreter) (d : Document) (frames : List String) : Document :=
  frames.foldl (fun d frame => (answer i d frame).1) d

/-! ## Answering one frame -/

section

variable (i : Interpreter) (d : Document) {frame : String}

theorem answer_of_answerable (h : isAnswerable frame = true) :
    ∃ reply : Reply, (answer i d frame).2 = .accepted reply.toWire := by
  unfold isAnswerable at h
  unfold answer
  cases htask : taskOf frame with
  | error reason => exact ⟨_, rfl⟩
  | ok task =>
      obtain ⟨operations, id⟩ := task
      rw [htask] at h
      cases id with
      | null | text => exact ⟨_, rfl⟩
      | bool | number | list | object => cases h

theorem answer_of_not_answerable (h : isAnswerable frame = false) :
    (answer i d frame).2 = .rejected [idIssue] := by
  unfold isAnswerable at h
  unfold answer
  cases htask : taskOf frame with
  | error reason =>
      rw [htask] at h
      cases h
  | ok task =>
      obtain ⟨operations, id⟩ := task
      rw [htask] at h
      cases id with
      | null | text => cases h
      | bool | number | list | object => rfl

end

/-! ## Between two frames -/

/-- The payload that an event sends, unless that is a heartbeat. -/
def Event.reply? : Event → Option String
  | sent payload => if Frame.isHeartbeat payload then none else some payload
  | _ => none

namespace State

/-- The replies that were sent so far. -/
def replies (s : State) : List String :=
  s.events.filterMap fun (_, event) => event.reply?

theorem replies_emit (s : State) (event : Event) :
    (s.emit event).replies = s.replies ++ event.reply?.toList := by
  unfold replies emit
  rw [List.filterMap_append]
  cases h : event.reply? <;> simp [h]

/-- A state that comes of another with no answer in between. -/
structure Idles (s after : State) : Prop where
  interpreter : after.interpreter = s.interpreter
  document : after.document = s.document
  replies : after.replies = s.replies

theorem Idles.refl (s : State) : s.Idles s := ⟨rfl, rfl, rfl⟩

theorem Idles.trans {s mid after : State} (h : s.Idles mid) (h' : mid.Idles after) :
    s.Idles after :=
  ⟨h'.interpreter.trans h.interpreter, h'.document.trans h.document, h'.replies.trans h.replies⟩

theorem Idles.emit {s after : State} (h : s.Idles after) {event : Event}
    (hevent : event.reply? = none) : s.Idles (after.emit event) :=
  ⟨h.interpreter, h.document,
    by rw [replies_emit, hevent, Option.toList, List.append_nil, h.replies]⟩

end State

theorem isHeartbeat_heartbeat : Frame.isHeartbeat heartbeat = true := by
  decide +kernel

theorem heartbeat_reply? : (Event.sent heartbeat).reply? = none := by
  simp [Event.reply?, isHeartbeat_heartbeat]

/-- Sending succeeds, or fails where it may fail. -/
theorem send_cases (s : State) (wire : Wire) (payload : String) :
    (∃ wire', send s wire payload = (s.emit (.sent payload), wire', true) ∧
      (wire.sendsLeft = none → wire'.sendsLeft = none)) ∨
    send s wire payload = (s.emit .sendFailed, wire, false) ∧ wire.sendsLeft ≠ none := by
  unfold send
  split
  next hspent => exact Or.inr ⟨rfl, by simp [hspent]⟩
  next n hleft => exact Or.inl ⟨_, rfl, by simp [hleft]⟩
  next => exact Or.inl ⟨wire, rfl, id⟩

theorem send_heartbeat (s : State) (wire : Wire) :
    s.Idles (send s wire heartbeat).1 ∧
      (wire.sendsLeft = none → (send s wire heartbeat).2.1.sendsLeft = none) := by
  obtain ⟨wire', hsend, hendless⟩ | ⟨hsend, hlimit⟩ := send_cases s wire heartbeat
  · rw [hsend]
    exact ⟨(State.Idles.refl s).emit heartbeat_reply?, hendless⟩
  · rw [hsend]
    exact ⟨(State.Idles.refl s).emit rfl, fun h => absurd h hlimit⟩

theorem beatUntil_idles (until_ : Float) (fuel : Nat) (s : State) (wire : Wire) :
    s.Idles (beatUntil until_ fuel s wire).1 ∧
      (wire.sendsLeft = none → (beatUntil until_ fuel s wire).2.sendsLeft = none) := by
  induction fuel generalizing s wire with
  | zero => exact ⟨.refl s, id⟩
  | succ fuel ih =>
      unfold beatUntil
      split
      next => exact ⟨.refl s, id⟩
      next t _ =>
        have hlater : s.Idles { s with now := t } := ⟨rfl, rfl, rfl⟩
        obtain ⟨hsent, hstays⟩ := send_heartbeat { s with now := t } wire
        exact ⟨(hlater.trans hsent).trans (ih _ _).1, fun hendless => (ih _ _).2 (hstays hendless)⟩

theorem passTo_idles (t : Float) (s : State) (wire : Wire) :
    s.Idles (passTo t s wire).1 ∧
      (wire.sendsLeft = none → (passTo t s wire).2.sendsLeft = none) := by
  unfold passTo
  obtain ⟨hidles, hendless⟩ := beatUntil_idles t _ s wire
  exact ⟨hidles.trans ⟨rfl, rfl, rfl⟩, hendless⟩

/-! ## A whole connection -/

/-- What serving a connection with some frames came to, with the replies that were put together. -/
structure Served (frames : List String) (s : State) (wire : Wire) (after : State)
    (crash : Option Crash) (replies : List Reply) : Prop where
  /-- The replies were sent in order, and besides them only heartbeats. -/
  sent : after.replies = s.replies ++ replies.map (·.toWire.write)
  /-- Each answers the frame at its place, on the document that the frames before it left. -/
  made : ∀ n reply, replies[n]? = some reply → ∃ frame, frames[n]? = some frame ∧
    (answer s.interpreter (documentAfter s.interpreter s.document (frames.take n)) frame).2 =
      .accepted reply.toWire
  /-- Serving that ends without a fault leaves out a frame only when sending fails. -/
  all : crash = none → wire.sendsLeft = none → replies.length = frames.length
  /-- A fault lies in the first frame without a reply, whose operations were run all the same. -/
  fault : ∀ c, crash = some c → c = .reply [idIssue] ∧
    ∃ frame, frames[replies.length]? = some frame ∧ isAnswerable frame = false ∧
      after.document =
        documentAfter s.interpreter s.document (frames.take (replies.length + 1))

namespace Served

variable {frame : String} {frames : List String} {s mid after : State} {wire wire' : Wire}
  {crash : Option Crash} {reply : Reply} {replies : List Reply}

/-- Serving ends before the next frame is answered. -/
theorem ended (h : after.replies = s.replies) (hlost : wire.sendsLeft = none → frames = []) :
    Served frames s wire (after.emit .disconnected) none [] where
  sent := by
    rw [State.replies_emit]
    exact congrArg (· ++ []) h
  made n reply hreply := by simp at hreply
  all _ hendless := by simp [hlost hendless]
  fault c hc := by cases hc

/-- Serving ends with a frame that cannot be answered. -/
theorem crashed (h : s.Idles mid) (hframe : isAnswerable frame = false) :
    Served (frame :: frames) s wire
      ({ mid with document := (answer s.interpreter s.document frame).1 }.emit .disconnected)
      (some (.reply [idIssue])) [] where
  sent := by
    rw [State.replies_emit]
    exact congrArg (· ++ []) h.replies
  made n reply hreply := by simp at hreply
  all hc := by cases hc
  fault c hc := by
    obtain rfl := Option.some.inj hc
    exact ⟨rfl, frame, rfl, hframe, rfl⟩

/-- A frame is answered, and what comes after it is served. -/
theorem answered (h : s.Idles mid)
    (hreply : (answer s.interpreter s.document frame).2 = .accepted reply.toWire)
    (hwire : wire.sendsLeft = none → wire'.sendsLeft = none)
    (hrest : Served frames ({ mid with document := (answer s.interpreter s.document frame).1 }.emit
      (.sent reply.toWire.write)) wire' after crash replies) :
    Served (frame :: frames) s wire after crash (reply :: replies) where
  sent := by
    have hsent : Event.reply? (.sent reply.toWire.write) = some reply.toWire.write := by
      simp [Event.reply?, reply.isHeartbeat_write]
    rw [hrest.sent, State.replies_emit, hsent, List.map_cons]
    have hbefore :
        State.replies { mid with document := (answer s.interpreter s.document frame).1 } =
        s.replies := h.replies
    simp [hbefore]
  made n other hother := by
    cases n with
    | zero =>
        obtain rfl := Option.some.inj hother
        exact ⟨frame, rfl, hreply⟩
    | succ n =>
        obtain ⟨text, htext, hmade⟩ := hrest.made n other hother
        refine ⟨text, htext, ?_⟩
        rw [← hmade]
        simp [State.emit, documentAfter, h.interpreter]
  all hc hendless := by simp [hrest.all hc (hwire hendless)]
  fault c hc := by
    obtain ⟨hfault, text, htext, hlabel, hdocument⟩ := hrest.fault c hc
    refine ⟨hfault, text, htext, hlabel, ?_⟩
    rw [hdocument]
    simp [State.emit, documentAfter, h.interpreter]

/-- The frames before a fault can be answered, and without a fault all of them can. -/
theorem isAnswerable_of_made (h : Served frames s wire after crash replies) {n : Nat}
    (hn : n < replies.length) : ∃ frame, frames[n]? = some frame ∧ isAnswerable frame = true := by
  obtain ⟨frame, hframe, hmade⟩ := h.made n _ (List.getElem?_eq_getElem hn)
  refine ⟨frame, hframe, Classical.byContradiction fun hnot => ?_⟩
  rw [answer_of_not_answerable _ _ (Bool.eq_false_iff.mpr hnot)] at hmade
  cases hmade

end Served

/-- A frame that cannot be answered ends serving, whatever frames are left. -/
theorem serve_of_not_answerable (endAfter delay : Number) {frame : String}
    (hframe : isAnswerable frame = false) (rest : List (Number × String)) (s : State)
    (wire : Wire) :
    ∃ mid, s.Idles mid ∧ serve endAfter ((delay, frame) :: rest) s wire =
      ({ mid with document := (answer s.interpreter s.document frame).1 }.emit .disconnected,
        some (.reply [idIssue])) := by
  have hidles := (passTo_idles (after s.now delay) s wire).1
  refine ⟨_, hidles, ?_⟩
  unfold serve
  dsimp only
  rw [hidles.interpreter, hidles.document]
  simp only [answer_of_not_answerable s.interpreter s.document hframe]

theorem serve_served (endAfter : Number) (frames : List (Number × String)) (s : State)
    (wire : Wire) :
    ∃ replies, Served (frames.map Prod.snd) s wire (serve endAfter frames s wire).1
      (serve endAfter frames s wire).2 replies := by
  induction frames generalizing s wire with
  | nil => exact ⟨[], .ended (passTo_idles _ s wire).1.replies fun _ => rfl⟩
  | cons first rest ih =>
      obtain ⟨delay, frame⟩ := first
      cases hframe : isAnswerable frame with
      | false =>
          obtain ⟨mid, hidles, hserve⟩ :=
            serve_of_not_answerable endAfter delay hframe rest s wire
          rw [hserve]
          exact ⟨[], .crashed hidles hframe⟩
      | true =>
          obtain ⟨hidles, hendless⟩ := passTo_idles (after s.now delay) s wire
          obtain ⟨reply, hreply⟩ := answer_of_answerable s.interpreter s.document hframe
          unfold serve
          generalize passTo (after s.now delay) s wire = passed at hidles hendless
          obtain ⟨mid, wire'⟩ := passed
          have hanswer : answer mid.interpreter mid.document frame =
              answer s.interpreter s.document frame := by rw [hidles.interpreter, hidles.document]
          dsimp only at hendless ⊢
          rw [hanswer]
          simp only [hreply]
          obtain ⟨wire'', hsend, hstays⟩ | ⟨hsend, hlimit⟩ := send_cases
            { mid with document := (answer s.interpreter s.document frame).1 } wire'
            reply.toWire.write
          · rw [hsend]
            obtain ⟨replies, hrest⟩ := ih _ wire''
            exact ⟨reply :: replies, .answered hidles hreply (hstays ∘ hendless) hrest⟩
          · rw [hsend]
            refine ⟨[], .ended ?_ fun h => absurd (hendless h) hlimit⟩
            rw [State.replies_emit]
            exact (congrArg (· ++ []) hidles.replies).trans (List.append_nil _)

/-- Every frame of a connection that can be answered is answered, in order, with one reply that says
how the task went; serving ends with a fault exactly when there is a frame that cannot. -/
theorem frames_answered (endAfter : Number) (frames : List (Number × String)) (s : State)
    (wire : Wire) :
    ∃ replies, Served (frames.map Prod.snd) s wire (serve endAfter frames s wire).1
        (serve endAfter frames s wire).2 replies ∧
      (∀ reply ∈ replies, ∃ members, reply.toWire = .object members ∧
        members.lookup ↑"ok" = some (.bool reply.ok)) ∧
      (wire.sendsLeft = none → ((serve endAfter frames s wire).2 = none ↔
        ∀ frame ∈ frames.map Prod.snd, isAnswerable frame = true)) := by
  obtain ⟨replies, hserved⟩ := serve_served endAfter frames s wire
  refine ⟨replies, hserved, fun reply _ => ⟨_, reply.toWire_eq, reply.lookup_wireFields_ok⟩, ?_⟩
  intro hendless
  constructor
  · intro hnone frame hframe
    obtain ⟨n, hn, rfl⟩ := List.mem_iff_getElem.mp hframe
    obtain ⟨frame, hthere, hlabel⟩ := hserved.isAnswerable_of_made
      (by rw [hserved.all hnone hendless]; exact hn)
    rw [List.getElem?_eq_getElem hn] at hthere
    exact Option.some.inj hthere ▸ hlabel
  · intro hall
    cases hcrash : (serve endAfter frames s wire).2 with
    | none => rfl
    | some crash =>
        obtain ⟨_, frame, hframe, hlabel, _⟩ := hserved.fault crash hcrash
        rw [hall frame (List.mem_of_getElem? hframe)] at hlabel
        cases hlabel

/-- A task and a text that is no JSON get one reply each. -/
theorem frames_answered_both :
    let s := State.fresh ⟨ExecutorSettings.defaultUrl, .int 30, .int 0, .int 1⟩ ⟨"data-oid", .int 0⟩
    let task := Json.write (.object [("ops", .list []), ("taskId", .text "a")])
    let ending := serve (.int 0) [(.int 1, task), (.int 1, "task")] s ⟨none, none⟩
    ending.2 = none ∧ ∃ first second : Reply,
      ending.1.replies = [first.toWire.write, second.toWire.write] := by
  intro s task ending
  obtain ⟨replies, hserved, _, hcomplete⟩ :=
    frames_answered (.int 0) [(.int 1, task), (.int 1, "task")] s ⟨none, none⟩
  have hanswerable : ∀ frame ∈ [task, "task"], isAnswerable frame = true := by decide +kernel
  have hnone : ending.2 = none := (hcomplete rfl).mpr hanswerable
  refine ⟨hnone, ?_⟩
  match replies, hserved.all hnone rfl, hserved.sent with
  | [first, second], _, hsent => exact ⟨first, second, hsent⟩

/-- A task with a number as its id. Its page is created, but there is no reply, and the task behind
it is lost. -/
theorem numbered_task_unanswered :
    let s := State.fresh ⟨ExecutorSettings.defaultUrl, .int 30, .int 0, .int 1⟩ ⟨"data-oid", .int 0⟩
    let page := Json.write (.object [("ops", .list [.object
      [("op", .text "CREATE_PAGE"), ("name", .text "About")]]), ("taskId", .int 5)])
    let next := Json.write (.object [("ops", .list []), ("taskId", .text "b")])
    let ending := serve (.int 0) [(.int 1, page), (.int 1, next)] s ⟨none, none⟩
    ending.2 = some (.reply [idIssue]) ∧ ending.1.replies = [] ∧
      ending.1.document.pages.map (·.name) = [↑"Home", ↑"About"] := by
  intro s page next ending
  have hframe : isAnswerable page = false := by decide +kernel
  obtain ⟨mid, hidles, hserve⟩ := serve_of_not_answerable (.int 0) (.int 1) hframe
    [(.int 1, next)] s ⟨none, none⟩
  have hending : ending = _ := hserve
  have hpages : (answer s.interpreter s.document page).1.pages.map (·.name) =
      [↑"Home", ↑"About"] := by decide +kernel
  rw [hending]
  refine ⟨rfl, ?_, hpages⟩
  rw [State.replies_emit]
  exact congrArg (· ++ []) hidles.replies

end Session

end DesignBridge
