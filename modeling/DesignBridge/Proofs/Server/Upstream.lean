import DesignBridge.Proofs.Server.Answering
import DesignBridge.Proofs.Site.Sending

/-! # What is made of the answers of the site's API

An answer counts as a refusal if its status is from 400 to 599, and with every other status as a
success, whatever it holds. The check of the API and the endpoint that publishes build on that.
-/

namespace DesignBridge

theorem Endpoint.find_of_path {endpoint : Endpoint} {request : Request}
    (hpath : ofPath? request.path = some endpoint) (hmethod : request.method = endpoint.method)
    (host : String) : find host request = .ok endpoint := by
  unfold find
  rw [hpath]
  exact if_pos hmethod

/-- A request that an endpoint takes is no question beforehand. -/
theorem Cors.preflight?_of_find {host : String} {request : Request} {endpoint : Endpoint}
    (h : Endpoint.find host request = .ok endpoint) (origins : List String) :
    preflight? origins request = none := by
  have hmethod : request.method ≠ "OPTIONS" := by
    unfold Endpoint.find at h
    split at h
    next found _ =>
      split at h
      next hmethod =>
        rw [hmethod]
        cases found <;> decide
      next => cases h
    next => cases h
  unfold preflight?
  split
  next => exact if_neg hmethod
  next => rfl

namespace Bridge

variable {b : Bridge} {request : Request} {client : SiteClient}

/-- A request that leads to a call is answered at once, with what comes of the call. -/
theorem takeRequest_call {endpoint : Endpoint} {after : Bridge} {call : SiteCall Response}
    (hfind : Endpoint.find b.setup.host request = .ok endpoint)
    (hreact : { b with requests := b.requests + 1 }.react endpoint request = (after, .call call))
    (site : SiteAnswer) :
    ∃ headers, (b.takeRequest request site).1.events = b.events ++
        [.responded b.requests { call.result site with headers }] ∧
      (b.takeRequest request site).2 = call.request? := by
  obtain ⟨auth, issued, hafter⟩ := react_eq { b with requests := b.requests + 1 } endpoint request
  rw [hreact] at hafter
  obtain rfl : after = _ := hafter
  obtain ⟨headers, hshare⟩ := Cors.share_eq b.setup.origins request (call.result site)
  refine ⟨headers, ?_⟩
  rw [← hshare]
  unfold takeRequest
  simp only [Cors.preflight?_of_find hfind, hfind, hreact, and_true]
  rfl

end Bridge

/-- Whether an answer says that all went well. -/
def Response.SaysOk (response : Response) : Prop :=
  ∃ members, response.content = .json (.object members) ∧ members.lookup ↑"ok" = some (.bool true)

namespace Response

theorem not_saysOk_of_object {response : Response} {members : Json.Members}
    (hcontent : response.content = .json (.object members))
    (hok : members.lookup ↑"ok" ≠ some (.bool true)) : ¬ response.SaysOk := by
  rintro ⟨others, hothers, htold⟩
  obtain rfl := Json.object.inj (Content.json.inj (hcontent.symm.trans hothers))
  exact hok htold

theorem not_saysOk_faulty (message : Runes) : ¬ (faulty message).SaysOk :=
  not_saysOk_of_object rfl (by rintro ⟨⟩)

theorem not_saysOk_breakdown (cause : Breakdown) : ¬ (breakdown cause).SaysOk := by
  rintro ⟨members, hcontent, _⟩
  cases hcontent

/-- What an answer with a value says is what the value says, if it can be written. -/
theorem saysOk_json_iff {status : Nat} {members : Json.Members} :
    (json status (.object members)).SaysOk ↔
      (Json.object members).isEncodable = true ∧ members.lookup ↑"ok" = some (.bool true) := by
  rcases json_eq status (.object members) with ⟨hencodable, heq⟩ | ⟨hnot, message, heq⟩
  · rw [heq]
    constructor
    · rintro ⟨others, hothers, htold⟩
      obtain rfl := Json.object.inj (Content.json.inj hothers)
      exact ⟨hencodable, htold⟩
    · exact fun h => ⟨_, rfl, h.2⟩
  · rw [heq, hnot]
    exact iff_of_false (not_saysOk_faulty message) (by simp)

theorem not_saysOk_invalid (issues : List Issue) (body : Json) :
    ¬ (invalid issues body).SaysOk := fun h => by
  cases (saysOk_json_iff.mp h).2

end Response

/-- A body that is refused is answered without saying that all went well. -/
theorem Body.not_saysOk_of_read {request : Request} {response : Response}
    (h : read request = .error response) : ¬ response.SaysOk := by
  unfold read at h
  repeat' split at h
  all_goals cases h
  unfold unreadable
  split
  next => exact Response.not_saysOk_invalid _ _
  next => exact fun h => by cases (Response.saysOk_json_iff.mp h).2

theorem Body.not_saysOk_refuse (issues : List Issue) (body : Body) :
    ¬ (refuse issues body).SaysOk := by
  cases body with
  | absent | json => exact Response.not_saysOk_invalid _ _
  | other bytes =>
      unfold refuse
      dsimp only
      split
      next => exact Response.not_saysOk_invalid _ _
      next => exact Response.not_saysOk_faulty _

theorem Body.not_saysOk_of_check {α : Type} {whenAbsent : Checked α} {read : Json → Checked α}
    {body : Body} {response : Response} (h : body.check whenAbsent read = .error response) :
    ¬ response.SaysOk := by
  unfold check at h
  dsimp only at h
  split at h
  next => cases h
  next =>
    cases h
    exact Body.not_saysOk_refuse _ _

/-- What a request to publish asks for, or the answer to a body that holds no such thing. -/
def PublishRequest.ofRequest (request : Request) : Except Response PublishRequest := do
  (← Body.read request).check (.accepted .default) read

theorem PublishRequest.not_saysOk_of_ofRequest {request : Request} {response : Response}
    (h : ofRequest request = .error response) : ¬ response.SaysOk := by
  unfold ofRequest at h
  cases hbody : Body.read request with
  | error refusal =>
      rw [hbody] at h
      exact Except.error.inj h ▸ Body.not_saysOk_of_read hbody
  | ok body =>
      rw [hbody] at h
      exact Body.not_saysOk_of_check h

namespace Bridge

variable {b : Bridge} {request : Request} {client : SiteClient}

theorem react_publish (hclient : b.client = some client) (request : Request) :
    b.react .publish request = (b, match PublishRequest.ofRequest request with
      | .error response => .answer response
      | .ok posted => .call (b.publish client posted)) := by
  unfold react PublishRequest.ofRequest
  dsimp only
  cases Body.read request with
  | error response => rfl
  | ok body =>
      simp only [withClient, hclient]
      show (match body.check (.accepted .default) PublishRequest.read with
        | .error response => (b, Reaction.answer response)
        | .ok posted => (b, Reaction.call (b.publish client posted))) =
          (b, match body.check (.accepted .default) PublishRequest.read with
            | .error response => .answer response
            | .ok posted => .call (b.publish client posted))
      cases body.check (.accepted .default) PublishRequest.read <;> rfl

theorem serviceFailure_eq {more : Json.Members} {error : SiteError}
    (h : error.isServiceFailure = true) : serviceFailure more error =
      Response.json 500 (.object (more ++ ([("error", .text error.message)] : Json.Members))) := by
  rw [serviceFailure, if_pos h]

theorem not_saysOk_published_error (e : SiteError) : ¬ (published (.error e)).SaysOk := by
  cases e with
  | refused | transfer =>
      rw [published, serviceFailure_eq rfl, Response.saysOk_json_iff]
      simp
  | header | unencodable | untyped | noClientId => exact Response.not_saysOk_faulty _
  | internal | address | notObject => exact Response.not_saysOk_breakdown _

/-- Only an outcome that is no error, and that can be told, is answered by saying that all went
well. -/
theorem saysOk_published_ok (result : Json) :
    (published (.ok result)).SaysOk ↔ result.kept.isEncodable = true := by
  rw [published, Response.saysOk_json_iff, Json.isEncodable_object]
  simp

end Bridge

namespace SiteClient

variable {settings : SiteSettings} {client : SiteClient} {made : SiteRequest}

/-- An answer to a request is a refusal just if its status is from 400 to 599. -/
theorem result_request (hclient : create settings = .ok client) {method endpoint : String}
    {body : Option Json} (h : (client.request method endpoint body).request? = some made)
    (hscheme : made.url.scheme ≠ "") (status : Nat)
    (bytes : List UInt8) (text : Runes) :
    (client.request method endpoint body).result (.answered status bytes text) =
      if 400 ≤ status ∧ status ≤ 599 then
        .error (.refused status (if text = "" then "Unknown error" else text))
      else .ok (SiteAnswer.content bytes) := by
  rw [request, result_send hclient h hscheme]
  simp [SiteAnswer.isErrorStatus]

/-- The check of the API finds a connection just if a request is not refused. -/
theorem connected_checkApi (hclient : create settings = .ok client) (status : Nat)
    (bytes : List UInt8) (text : Runes) :
    (client.checkApi.request? = none →
      client.checkApi.result (.answered status bytes text) ≠ .ok .connected) ∧
    ∀ made, client.checkApi.request? = some made → made.url.scheme ≠ "" →
      (client.checkApi.result (.answered status bytes text) = .ok .connected ↔
        ¬ (400 ≤ status ∧ status ≤ 599)) := by
  unfold checkApi
  split
  next =>
    rw [SiteCall.request?_map, SiteCall.result_map]
    refine ⟨fun hnone => ?_, fun made hmade hscheme => ?_⟩
    · obtain ⟨e, he⟩ := result_of_request?_none hnone (.answered status bytes text)
      rw [listSites, request, he]
      dsimp only
      split <;> rintro ⟨⟩
    · rw [listSites, result_request hclient hmade hscheme]
      by_cases hrefused : 400 ≤ status ∧ status ≤ 599
      · rw [if_pos hrefused]
        exact iff_of_false (by rintro ⟨⟩) (not_not_intro hrefused)
      · rw [if_neg hrefused]
        exact iff_of_true rfl hrefused
  next => exact ⟨fun _ => by rintro ⟨⟩, fun made hmade => by cases hmade⟩

end SiteClient

namespace Bridge

/-- What comes of a request to publish that is taken. -/
theorem saysOk_publish (b : Bridge) {settings : SiteSettings} {client : SiteClient}
    (hclient : SiteClient.create settings = .ok client) (posted : PublishRequest) (status : Nat)
    (bytes : List UInt8) (text : Runes) :
    ((b.publish client posted).request? = none →
      ¬ ((b.publish client posted).result (.answered status bytes text)).SaysOk) ∧
    ∀ made, (b.publish client posted).request? = some made → made.url.scheme ≠ "" →
      (((b.publish client posted).result (.answered status bytes text)).SaysOk ↔
        ¬ (400 ≤ status ∧ status ≤ 599) ∧ (SiteAnswer.content bytes).kept.isEncodable = true) := by
  unfold publish
  dsimp only
  cases (posted.siteId.filter fun s : Runes => s ≠ "").or
    ((b.siteSettings.siteId.filter (· ≠ "")).map Runes.ofString) with
  | none => exact ⟨fun _ => Response.not_saysOk_faulty _, fun made hmade => by cases hmade⟩
  | some siteId =>
      dsimp only
      rw [SiteCall.request?_map, SiteCall.result_map, SiteClient.publish]
      cases SiteClient.publishAddress siteId with
      | error e =>
          exact ⟨fun _ => not_saysOk_published_error e, fun made hmade => by cases hmade⟩
      | ok address =>
          refine ⟨fun hnone => ?_, fun made hmade hscheme => ?_⟩
          · obtain ⟨e, he⟩ := SiteClient.result_of_request?_none hnone (.answered status bytes text)
            dsimp only
            rw [SiteClient.request, he]
            exact not_saysOk_published_error e
          · dsimp only
            rw [SiteClient.result_request hclient hmade hscheme]
            by_cases hrefused : 400 ≤ status ∧ status ≤ 599
            · rw [if_pos hrefused]
              exact iff_of_false (not_saysOk_published_error _) fun h => h.1 hrefused
            · rw [if_neg hrefused, saysOk_published_ok]
              exact (and_iff_right hrefused).symm

/-- What is made of an answer. If its status is from 400 to 599 the request fails with that status
and the text of the answer, and else its content is the result; the check of the API finds a
connection, and a request to publish is answered by saying that all went well, just if something was
asked and not refused. An answer with what cannot be written cannot be told. An address without a
scheme leads nowhere, so there are answers only to requests that have one. -/
theorem refused_from_400_to_599 {settings : SiteSettings} {client : SiteClient}
    (hclient : SiteClient.create settings = .ok client) (status : Nat)
    (bytes : List UInt8) (text : Runes) :
    (∀ method endpoint body made, (client.request method endpoint body).request? = some made →
      made.url.scheme ≠ "" →
      (client.request method endpoint body).result (.answered status bytes text) =
        if 400 ≤ status ∧ status ≤ 599 then
          .error (.refused status (if text = "" then "Unknown error" else text))
        else .ok (SiteAnswer.content bytes)) ∧
    ((client.checkApi.request? = none →
      client.checkApi.result (.answered status bytes text) ≠ .ok .connected) ∧
      ∀ made, client.checkApi.request? = some made → made.url.scheme ≠ "" →
        (client.checkApi.result (.answered status bytes text) = .ok .connected ↔
          ¬ (400 ≤ status ∧ status ≤ 599))) ∧
    ∀ (b : Bridge) (request : Request), b.client = some client →
      Endpoint.find b.setup.host request = .ok .publish →
      ∃ response, (b.takeRequest request (.answered status bytes text)).1.events =
          b.events ++ [.responded b.requests response] ∧
        ((b.takeRequest request (.answered status bytes text)).2 = none → ¬ response.SaysOk) ∧
        ∀ made, (b.takeRequest request (.answered status bytes text)).2 = some made →
          made.url.scheme ≠ "" →
          (response.SaysOk ↔
            ¬ (400 ≤ status ∧ status ≤ 599) ∧
              (SiteAnswer.content bytes).kept.isEncodable = true) := by
  refine ⟨fun method endpoint body made hmade hscheme => ?_, ?_, fun b request hb hfind => ?_⟩
  · exact SiteClient.result_request hclient hmade hscheme status bytes text
  · exact SiteClient.connected_checkApi hclient status bytes text
  · have hreact := react_publish (b := { b with requests := b.requests + 1 }) hb request
    cases hposted : PublishRequest.ofRequest request with
    | error response =>
        rw [hposted] at hreact
        obtain ⟨headers, hevents, hmade⟩ :=
          takeRequest_call hfind hreact (.answered status bytes text)
        have hrefused : ¬ response.SaysOk := PublishRequest.not_saysOk_of_ofRequest hposted
        refine ⟨_, hevents, fun _ => hrefused, fun made h => ?_⟩
        rw [hmade] at h
        cases h
    | ok posted =>
        rw [hposted] at hreact
        obtain ⟨headers, hevents, hmade⟩ :=
          takeRequest_call hfind hreact (.answered status bytes text)
        have htold :=
          saysOk_publish { b with requests := b.requests + 1 } hclient posted status bytes text
        rw [hmade]
        exact ⟨_, hevents, htold⟩

/-- The settings of a site with a token, when no other variable is set. -/
def tokened : SiteSettings :=
  .load (Table.empty.insert "WEBFLOW_TOKEN" "token")

def tokenedClient : SiteClient := ⟨tokened, Url.apiBase⟩

/-- A bridge with a client that has a token. -/
def tokenedBridge : Bridge := { justStarted with client := some tokenedClient }

theorem create_tokened : SiteClient.create tokened = .ok tokenedClient :=
  SiteClient.create_default rfl

/-- The client puts a request together for whatever can be put below its base. -/
theorem prepare_tokened {method endpoint : String} {body : Option Json} {u url : Url}
    (hparse : Url.parse endpoint = .ok u) (happend : Url.apiBase.append u = .ok url)
    (hbody : ∀ value ∈ body, value.isEncodable = true) :
    tokenedClient.prepare method endpoint (SiteClient.bearer? tokened) "application/json" body =
      .ok ⟨Text.upper method, url, (SiteClient.basic? url).or (some "Bearer token"),
        "application/json", body⟩ := by
  have hheader : ∀ header, SiteClient.bearer? tokened = some header →
      header.toList.findIdx? (fun c => 0x80 ≤ c.toNat) = none := by
    rintro header ⟨⟩
    rfl
  exact SiteClient.prepare_of_append hparse happend hheader hbody

theorem exists_request_tokened {method endpoint : String} {body : Option Json} {u url : Url}
    (hparse : Url.parse endpoint = .ok u) (happend : Url.apiBase.append u = .ok url)
    (hbody : ∀ value ∈ body, value.isEncodable = true) : ∃ made,
    (tokenedClient.request method endpoint body).request? = some made ∧ made.url.scheme ≠ "" :=
  have hprepare := prepare_tokened hparse happend hbody
  ⟨_, (SiteClient.request?_send _).mpr hprepare,
    SiteClient.scheme_ne_of_prepare (by decide) hprepare⟩

theorem exists_listSites_tokened : ∃ made,
    tokenedClient.listSites.request? = some made ∧ made.url.scheme ≠ "" :=
  exists_request_tokened rfl ((Url.append_api rfl).trans rfl) nofun

theorem exists_publish_tokened : ∃ made,
    (tokenedClient.publish SiteSettings.defaultSiteId [] true).request? = some made ∧
      made.url.scheme ≠ "" := by
  rw [SiteClient.publish_ofString]
  exact exists_request_tokened rfl ((Url.append_api rfl).trans rfl)
    (by simp [Json.isEncodable_object, Json.isEncodable_list])

/-- A request to publish that names no site. -/
def publishing : Request := ⟨"POST", "/publish", "", [], []⟩

theorem find_publishing (host : String) : Endpoint.find host publishing = .ok .publish :=
  Endpoint.find_of_path (by decide +kernel) rfl host

/-- Then the site is published that is used when none is named. -/
theorem takeRequest_publishing (site : SiteAnswer) :
    let call := tokenedClient.publish SiteSettings.defaultSiteId [] true
    ∃ headers, (tokenedBridge.takeRequest publishing site).1.events =
        [.responded 0 { published (call.result site) with headers }] ∧
      (tokenedBridge.takeRequest publishing site).2 = call.request? := by
  intro call
  have hreact : { tokenedBridge with requests := tokenedBridge.requests + 1 }.react .publish
      publishing = ({ tokenedBridge with requests := tokenedBridge.requests + 1 },
        .call (call.map published)) := by
    refine (react_publish rfl _).trans (congrArg (_, Reaction.call ·) ?_)
    rfl
  obtain ⟨headers, hevents, hmade⟩ :=
    takeRequest_call (find_publishing tokenedBridge.setup.host) hreact site
  rw [SiteCall.result_map] at hevents
  rw [SiteCall.request?_map] at hmade
  exact ⟨headers, hevents, hmade⟩

/-- What the site's API says of a site that is not there. -/
def noSite : List UInt8 := Utf8.encode "no site".toList

/-- Where no site is found, none is published, and the check of the API finds no connection. -/
theorem refused_from_400_to_599_missing :
    SiteClient.create tokened = .ok tokenedClient ∧
      tokenedClient.listSites.result (.answered 404 noSite) =
        .error (.refused 404 "no site") ∧
      tokenedClient.checkApi.result (.answered 404 noSite) ≠ .ok .connected ∧
      tokenedClient.checkApi.result (.answered 200 []) = .ok .connected ∧
      ∃ response, (tokenedBridge.takeRequest publishing (.answered 404 noSite)).1.events =
        [.responded 0 response] ∧ ¬ response.SaysOk := by
  obtain ⟨made, hmade, hscheme⟩ := exists_listSites_tokened
  obtain ⟨posted, hposted, hposted_scheme⟩ := exists_publish_tokened
  have hcheck : tokenedClient.checkApi.request? = some made :=
    (SiteCall.request?_map _ _).trans hmade
  obtain ⟨_, _, hroute⟩ := takeRequest_publishing (.answered 404 noSite)
  obtain ⟨hmissing, ⟨_, hdisconnected⟩, hpublish⟩ :=
    refused_from_400_to_599 create_tokened 404 noSite _
  obtain ⟨_, ⟨_, hconnected⟩, _⟩ := refused_from_400_to_599 create_tokened 200 [] _
  obtain ⟨response, hevents, _, htold⟩ := hpublish tokenedBridge publishing rfl (find_publishing _)
  have htext : String.ofList (Utf8.decode noSite) = "no site" := by
    rw [noSite, Utf8.decode_encode]
    rfl
  refine ⟨create_tokened, ?_, ?_, ?_, response, hevents, ?_⟩
  · refine (hmissing _ _ _ made hmade hscheme).trans ?_
    rw [htext]
    rfl
  · exact fun h => (hdisconnected made hcheck hscheme).mp h (by decide)
  · exact (hconnected made hcheck hscheme).mpr (by decide)
  · exact fun h => ((htold posted (hroute.trans hposted) hposted_scheme).mp h).1 (by decide)

/-- A redirection, which is not followed, is taken for a success: by the client, by the check of the
API and by the endpoint that publishes. -/
theorem redirection_taken_for_success :
    SiteClient.create tokened = .ok tokenedClient ∧
      tokenedClient.listSites.result (.answered 302 []) = .ok (.object []) ∧
      tokenedClient.checkApi.result (.answered 302 []) = .ok .connected ∧
      ∃ response, (tokenedBridge.takeRequest publishing (.answered 302 [])).1.events =
        [.responded 0 response] ∧ response.SaysOk := by
  obtain ⟨made, hmade, hscheme⟩ := exists_listSites_tokened
  obtain ⟨posted, hposted, hposted_scheme⟩ := exists_publish_tokened
  have hcheck : tokenedClient.checkApi.request? = some made :=
    (SiteCall.request?_map _ _).trans hmade
  obtain ⟨headers, hevents, _⟩ := takeRequest_publishing (.answered 302 [])
  refine ⟨create_tokened, SiteClient.result_request create_tokened hmade hscheme 302 [] _, ?_, _,
    hevents, ?_⟩
  · exact ((SiteClient.connected_checkApi create_tokened 302 [] _).2 made hcheck hscheme).mpr
      (by decide)
  · rw [SiteClient.publish_ofString] at hposted ⊢
    rw [SiteClient.result_request create_tokened hposted hposted_scheme]
    exact (saysOk_published_ok (.object [])).mpr rfl

end Bridge

end DesignBridge
