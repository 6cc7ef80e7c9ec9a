import DesignBridge.Proofs.Json.Body
import DesignBridge.Proofs.Session.Label
import DesignBridge.Server.Cors
import DesignBridge.Server.Handle

/-! # Posted tasks

A body that is taken for the relay came as text, and holds a task. It is handed over as it was
posted.
-/

namespace DesignBridge

/-- Whether a request posts JSON to the endpoint of tasks. -/
structure Request.PostsTask (request : Request) : Prop where
  method : request.method = "POST"
  path : request.path = "/task"
  json : (request.header? "content-type").any Body.isJsonType = true

namespace Request.PostsTask

variable {request : Request}

theorem preflight? (h : request.PostsTask) (origins : List String) :
    Cors.preflight? origins request = none := by
  unfold Cors.preflight?
  split
  next => rw [if_neg (by rw [h.method]; decide)]
  next => rfl

theorem find (h : request.PostsTask) (host : String) : Endpoint.find host request = .ok .task := by
  unfold Endpoint.find
  rw [h.path, h.method]
  rfl

end Request.PostsTask

/-! ## Answers that can be written -/

namespace Response

theorem json_eq (status : Nat) (value : Json) :
    (value.isEncodable = true ∧ json status value = ⟨status, [], .json value, none⟩) ∨
      (value.isEncodable = false ∧ ∃ message, json status value = faulty message) := by
  unfold json
  cases hfault : value.encodingFault? with
  | none => exact .inl ⟨Json.encodingFault?_eq_none_iff.mp hfault, rfl⟩
  | some fault =>
      refine .inr ⟨Bool.eq_false_iff.mpr fun h => ?_, _, rfl⟩
      rw [Json.encodingFault?_eq_none_iff.mpr h] at hfault
      cases hfault

/-- An answer that cannot be written makes the request count as faulty. -/
theorem status_json (status : Nat) (value : Json) :
    (json status value).status = if value.isEncodable then status else 400 := by
  rcases json_eq status value with ⟨h, heq⟩ | ⟨h, message, heq⟩
  · rw [heq, h]
    rfl
  · rw [heq, h]
    rfl

end Response

/-! ## Why a body is refused -/

theorem PathPart.isEncodable_toJson (part : PathPart) : part.toJson.isEncodable = true := by
  cases part with
  | index n => rfl
  | key | kind => exact Runes.isWhole_ofString _

theorem Fault.isEncodable_context (fault : Fault) :
    (Json.object fault.context).isEncodable = true := by
  cases fault <;>
    simp [context, Json.isEncodable, Json.allFinite, Json.allFiniteMembers, Json.isWhole,
      Json.isWholeMembers, Json.int]

/-- Of all that is said of an issue only the faulty value may be impossible to write. -/
theorem Issue.isEncodable_detail (issue : Issue) (input : Json) :
    (issue.detail input).isEncodable = input.isEncodable := by
  have hplace : (Json.list (issue.path.map PathPart.toJson)).isEncodable = true := by
    rw [Json.isEncodable_list, List.all_map]
    exact List.all_eq_true.mpr fun part _ => part.isEncodable_toJson
  have hcontext : (if issue.fault.context.isEmpty then ([] : Json.Members)
      else [("ctx", .object issue.fault.context)]).all
        (fun member => member.1.isWhole && member.2.isEncodable) = true := by
    split
    next => rfl
    next => simp [issue.fault.isEncodable_context]
  rw [detail, Json.isEncodable_object, List.all_append, List.all_cons, hcontext]
  simp [members, hplace]

theorem Response.status_invalid (issues : List Issue) (value : Json) :
    (Response.invalid issues value).status =
      if issues.all fun issue => (value.follow (issue.path.drop 1)).kept.isEncodable then 422
      else 400 := by
  have hdetails : (Json.object [("detail", .list (issues.map fun issue =>
        issue.detail (value.follow (issue.path.drop 1)).kept))]).isEncodable =
      issues.all fun issue => (value.follow (issue.path.drop 1)).kept.isEncodable := by
    simp [Json.isEncodable_object, Json.isEncodable_list, Function.comp_def,
      Issue.isEncodable_detail]
  rw [invalid, status_json, hdetails]

/-- Issues with a body are about the same parts as those with its value. -/
theorem Checked.map_path_asBody {α : Type} (x : Checked α) :
    x.asBody.issues.map Issue.path = x.issues.map Issue.path := by
  cases x with
  | accepted a => rfl
  | rejected issues =>
      rw [asBody, mapIssues, Checked.issues, List.map_map]
      refine List.map_congr_left fun issue _ => ?_
      rw [Function.comp_apply]
      split <;> rfl

/-- Whether the parts of a value that keep it from being a task can be told in an answer. -/
def Task.isExplicable (value : Json) : Bool :=
  (Task.read value).issues.all fun issue => (value.follow issue.path).kept.isEncodable

/-- Whether it is known where the text of a body is not JSON any more. -/
def Json.BodyError.hasPlace : BodyError → Bool
  | json (.fault ..) => true
  | _ => false

/-- Whether it can be told what is wrong with a body that holds no task: where it is not JSON any
more, or which parts of its value keep it from being a task. -/
def Task.isExplicableBody (bytes : List UInt8) : Bool :=
  match Json.readBody? bytes with
  | .ok value => isExplicable value
  | .error e => e.hasPlace

namespace Body

theorem status_unreadable (e : Json.BodyError) :
    (unreadable e).status = if e.hasPlace then 422 else 400 := by
  cases e with
  | encoding => rfl
  | json e =>
      cases e with
      | tooLong => rfl
      | fault =>
          rw [unreadable, Response.status_invalid]
          rfl

theorem exists_text_of_read {request : Request} {value : Json}
    (h : read request = .ok (.json value)) : ∃ rs, Json.readRunes? rs = .ok value := by
  unfold read at h
  split at h
  next => cases h
  next =>
    split at h
    next =>
      split at h
      next heq =>
        obtain rfl := Body.json.inj (Except.ok.inj h)
        exact Json.exists_text_of_readBody? heq
      next => cases h
    next => cases h

theorem read_of_readBody? {request : Request}
    (htype : (request.header? "content-type").any isJsonType = true) {value : Json}
    (h : Json.readBody? request.body = .ok value) : read request = .ok (.json value) := by
  have hbody : request.body ≠ [] := by
    intro hempty
    rw [hempty, Json.readBody?_nil] at h
    cases h
  unfold read
  rw [if_neg hbody, if_pos htype, h]

theorem check_task {value : Json} {task : Task} (h : Task.read value = .accepted task) :
    (json value).check (.fail .missing) Task.read = .ok task := by
  cases value with
  | object members =>
      unfold check
      dsimp only
      rw [h]
      rfl
  | null | bool | number | text | list => cases h

/-- The value of a body is refused with its issues, as seen from the request. -/
theorem check_refused {value : Json} (h : ∀ task, Task.read value ≠ .accepted task) :
    ∃ response, (json value).check (.fail .missing) Task.read = .error response ∧
      response.status = if Task.isExplicable value then 422 else 400 := by
  have hparts : Task.isExplicable value = ((Task.read value).asBody.issues.map Issue.path).all
      fun path => (value.follow path).kept.isEncodable := by
    rw [Checked.map_path_asBody, Task.isExplicable, List.all_map]
    rfl
  rw [hparts]
  cases hread : (Task.read value).asBody with
  | accepted task =>
      cases htask : Task.read value with
      | accepted task => exact absurd htask (h task)
      | rejected issues =>
          rw [htask] at hread
          cases hread
  | rejected issues =>
      cases value with
      | null =>
          obtain rfl := Checked.rejected.inj hread
          exact ⟨_, rfl, rfl⟩
      | bool | number | text | list | object =>
          unfold check
          dsimp only
          rw [hread]
          refine ⟨_, rfl, ?_⟩
          rw [refuse, Response.status_invalid, List.all_map, List.all_map]
          rfl

end Body

namespace Bridge

/-- An object that is read as a task is handed to the relay as it is. -/
theorem takeTask_of_task {b : Bridge} (hrelay : b.hasRelay = true) {members : Json.Members}
    {task : Task} (h : Task.read (.object members) = .accepted task) :
    b.takeTask (.json (.object members)) = .submit members := by
  unfold takeTask
  rw [Body.check_task h, hrelay]
  rfl

theorem takeTask_refused (b : Bridge) {value : Json}
    (h : ∀ task, Task.read value ≠ .accepted task) :
    ∃ response, b.takeTask (.json value) = .answer response ∧
      response.status = if Task.isExplicable value then 422 else 400 := by
  obtain ⟨response, hcheck, hstatus⟩ := Body.check_refused h
  refine ⟨response, ?_, hstatus⟩
  unfold takeTask
  rw [hcheck]

/-- Nothing else is handed to the relay. -/
theorem takeTask_eq_submit {b : Bridge} {body : Body} {members : Json.Members}
    (h : b.takeTask body = .submit members) :
    body = .json (.object members) ∧ ∃ task, Task.read (.object members) = .accepted task := by
  cases body with
  | absent | other => cases h
  | json value =>
      by_cases htask : ∃ task, Task.read value = .accepted task
      · obtain ⟨task, htask⟩ := htask
        unfold takeTask at h
        rw [Body.check_task htask] at h
        dsimp only at h
        split at h
        next => cases h
        next =>
          cases value with
          | object taken =>
              obtain rfl := Reaction.submit.inj h
              exact ⟨rfl, task, htask⟩
          | null | bool | number | text | list => cases htask
      · obtain ⟨response, hanswer, _⟩ := b.takeTask_refused (not_exists.mp htask)
        rw [hanswer] at h
        cases h

/-- What is posted as a task and is none is not handed on but refused. -/
theorem react_refused (b : Bridge) {request : Request} (hposts : request.PostsTask)
    (hnot : ∀ value task, Json.readBody? request.body = .ok value →
      Task.read value ≠ .accepted task) :
    ∃ response, b.react .task request = (b, .answer response) ∧
      response.status = if Task.isExplicableBody request.body then 422 else 400 := by
  unfold react Body.read Task.isExplicableBody
  dsimp only
  by_cases hempty : request.body = []
  · rw [if_pos hempty, hempty, Json.readBody?_nil]
    exact ⟨_, rfl, rfl⟩
  · rw [if_neg hempty, if_pos hposts.json]
    cases hread : Json.readBody? request.body with
    | error e => exact ⟨_, rfl, Body.status_unreadable e⟩
    | ok value =>
        obtain ⟨response, hanswer, hstatus⟩ := b.takeTask_refused fun task => hnot value task hread
        dsimp only
        rw [hanswer]
        exact ⟨response, rfl, hstatus⟩

/-- What is posted as a task and is one is handed to the relay. -/
theorem react_of_task {b : Bridge} (hrelay : b.hasRelay = true) {request : Request}
    (hposts : request.PostsTask) {members : Json.Members} {task : Task}
    (hread : Json.readBody? request.body = .ok (.object members))
    (htask : Task.read (.object members) = .accepted task) :
    b.react .task request = (b, .submit members) := by
  unfold react
  dsimp only
  rw [Body.read_of_readBody? hposts.json hread]
  dsimp only
  rw [takeTask_of_task hrelay htask]

/-- So a task that an endpoint hands to the relay came as text. -/
theorem arrives_of_react {b : Bridge} {endpoint : Endpoint} {request : Request}
    {members : Json.Members} (h : (b.react endpoint request).2 = .submit members) :
    endpoint = .task ∧ Body.read request = .ok (.json (.object members)) ∧
      Task.Arrives members := by
  cases endpoint with
  | task =>
      unfold react at h
      dsimp only at h
      split at h
      next => cases h
      next body hbody =>
        obtain ⟨rfl, task, htask⟩ := takeTask_eq_submit h
        exact ⟨rfl, hbody, Body.exists_text_of_read hbody, task, htask⟩
  | publish =>
      simp only [react, withClient] at h
      split at h
      next => cases h
      next =>
        split at h
        next => split at h <;> cases h
        next => cases h
  | authorize =>
      simp only [react, withClient] at h
      split at h <;> cases h
  | callback =>
      simp only [react, withClient] at h
      split at h <;> cases h
  | alive | health | status => cases h

end Bridge

end DesignBridge
