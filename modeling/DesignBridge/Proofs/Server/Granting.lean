import DesignBridge.Proofs.Server.Upstream

/-! # Codes exchanged for tokens

The answer to a code is read before its status is looked at. If it is an object, or no JSON at all,
the end of an authorization is told in every case: the tokens are there, or the reason why they were
refused, as far as that can be written. If it is another value the exchange breaks down.
-/

namespace DesignBridge

namespace SiteClient

variable {status : Nat} {bytes : List UInt8}

/-- The reason that is given for a refusal. -/
def refusal (tokens : Json.Members) : Runes :=
  (((tokens.lookup ↑"error_description").filter Json.isTruthy).map Json.display).getD
    "OAuth token exchange failed"

theorem concludeExchange_of_object {tokens : Json.Members}
    (h : SiteAnswer.content bytes = .object tokens) :
    concludeExchange status bytes = if 400 ≤ status ∧ status ≤ 599 then
      .error (.refused status (refusal tokens)) else .ok (.object tokens) := by
  unfold concludeExchange refusal
  simp [h, SiteAnswer.isErrorStatus]

theorem concludeExchange_of_other (h : ∀ tokens, SiteAnswer.content bytes ≠ .object tokens) :
    concludeExchange status bytes = if 400 ≤ status ∧ status ≤ 599 then
      .error (.notObject (SiteAnswer.content bytes))
      else .ok (SiteAnswer.content bytes) := by
  unfold concludeExchange
  generalize SiteAnswer.content bytes = value at h
  cases value with
  | object tokens => exact absurd rfl (h tokens)
  | _ => simp [SiteAnswer.isErrorStatus]

theorem isEncodable_exchangeBody (settings : SiteSettings) (code : String) :
    (exchangeBody settings code).isEncodable = true := by
  have hstring : ∀ s, (Json.ofString? s).isEncodable = true := by
    rintro (_ | s)
    · rfl
    · exact Runes.isWhole_ofString s
  unfold exchangeBody
  cases settings.redirectUri.filter (· ≠ "") <;> simp [Json.isEncodable_object, hstring]

/-- At the default address a code can always be asked about. -/
theorem exists_exchangeCode (client : SiteClient)
    (h : client.settings.tokenUrl = SiteSettings.defaultTokenUrl) (code : String) : ∃ made,
    (client.exchangeCode code).request? = some made ∧ made.url.scheme ≠ "" := by
  let url : Url := ⟨"https", "", "api.webflow.com", none, "/oauth/access_token", none, none⟩
  have hparse : Url.parse client.settings.tokenUrl = .ok url := by
    rw [h]
    rfl
  have hbody : ∀ value ∈ some (exchangeBody client.settings code), value.isEncodable = true := by
    simp [isEncodable_exchangeBody]
  have hprepare : client.prepare "POST" client.settings.tokenUrl none "*/*" (some (exchangeBody
      client.settings code)) = .ok ⟨_, url, _, _, _⟩ :=
    prepare_of_append hparse (if_pos rfl) (by rintro header ⟨⟩) hbody
  have hscheme : url.scheme ≠ "" := by decide
  exact ⟨_, (request?_send _).mpr hprepare, hscheme⟩

end SiteClient

namespace Response

/-- Whether an answer tells how an exchange ended that was answered with a status and tokens: the
reason of a refusal, or whether there is a token for access. A reason that cannot be written counts
as a fault of the request. -/
def TellsExchange (response : Response) (status : Nat) (tokens : Json.Members) : Prop :=
  ∃ members, response.content = .json (.object members) ∧
    if 400 ≤ status ∧ status ≤ 599 then
      if (SiteClient.refusal tokens).isWhole then
        response.status = 500 ∧ members.lookup ↑"error" =
          some (.text (SiteError.refused status (SiteClient.refusal tokens)).message)
      else response.status = 400 ∧ ∃ reason, members.lookup ↑"error" = some (.text reason)
    else response.status = 200 ∧ members.lookup ↑"hasAccessToken" =
      some (.bool ((tokens.lookup ↑"access_token").any Json.isTruthy))

end Response

namespace Bridge

variable {b : Bridge} {request : Request} {client : SiteClient} {status : Nat} {bytes : List UInt8}

/-- A code that comes with a good state is exchanged. -/
theorem react_callback (hclient : b.client = some client) {code : String}
    (hcode : request.parameter? "code" = some code) (hgiven : code ≠ "")
    (hstate : (b.auth.consume b.clock (request.parameter? "state")).2 = true) :
    b.react .callback request =
      ({ b with auth := (b.auth.consume b.clock (request.parameter? "state")).1 },
        .call ((client.exchangeCode code).map exchanged)) := by
  have hfilter : (request.parameter? "code").filter (· ≠ "") = some code := by
    simp [hcode, hgiven]
  simp only [react, withClient, hclient, callback, hfilter, hstate, if_true]

/-- The caller is told of the exchange. -/
theorem takeRequest_callback (hclient : b.client = some client)
    (hfind : Endpoint.find b.setup.host request = .ok .callback) {code : String}
    (hcode : request.parameter? "code" = some code) (hgiven : code ≠ "")
    (hstate : (b.auth.consume b.clock (request.parameter? "state")).2 = true) (site : SiteAnswer) :
    ∃ headers, (b.takeRequest request site).1.events = b.events ++ [.responded b.requests
        { exchanged ((client.exchangeCode code).result site) with headers }] ∧
      (b.takeRequest request site).2 = (client.exchangeCode code).request? := by
  obtain ⟨headers, hevents, hasked⟩ := takeRequest_call hfind
    (react_callback (b := { b with requests := b.requests + 1 }) hclient hcode hgiven hstate) site
  rw [SiteCall.result_map] at hevents
  rw [SiteCall.request?_map] at hasked
  exact ⟨headers, hevents, hasked⟩

theorem exchanged_of_object {tokens : Json.Members}
    (h : SiteAnswer.content bytes = .object tokens) :
    (exchanged (SiteClient.concludeExchange status bytes)).TellsExchange status tokens := by
  rw [SiteClient.concludeExchange_of_object h]
  unfold Response.TellsExchange
  split
  next =>
    let told : Json.Members :=
      [("error", .text (SiteError.refused status (SiteClient.refusal tokens)).message)]
    have hanswer : exchanged (.error (.refused status (SiteClient.refusal tokens))) =
        Response.json 500 (.object told) := by
      rw [exchanged, serviceFailure_eq rfl, List.nil_append]
    have hencodable : (Json.object told).isEncodable = (SiteClient.refusal tokens).isWhole := by
      simp [told, Json.isEncodable_object, SiteError.message]
    rw [hanswer, ← hencodable]
    rcases Response.json_eq 500 (.object told) with ⟨htold, heq⟩ | ⟨hnot, message, heq⟩
    · rw [heq]
      exact ⟨told, rfl, (if_pos htold).mpr ⟨rfl, List.lookup_cons_self⟩⟩
    · rw [heq]
      refine ⟨_, rfl, (if_neg (by simp [hnot])).mpr ⟨rfl, message, ?_⟩⟩
      simp [List.lookup_cons]
  next =>
    rw [exchanged]
    rcases Response.json_eq 200 (.object _) with ⟨_, heq⟩ | ⟨hnot, _⟩
    · rw [heq]
      exact ⟨_, rfl, rfl, by simp [List.lookup_cons]⟩
    · simp [Json.isEncodable_object] at hnot

theorem exchanged_of_other (h : ∀ tokens, SiteAnswer.content bytes ≠ .object tokens) :
    exchanged (SiteClient.concludeExchange status bytes) =
      Response.breakdown (.site (.notObject (SiteAnswer.content bytes))) := by
  rw [SiteClient.concludeExchange_of_other h]
  split
  next => rfl
  next =>
    generalize SiteAnswer.content bytes = value at h
    cases value with
    | object tokens => exact absurd rfl (h tokens)
    | _ => rfl

/-- What comes of an exchange. If the answer is an object, or no JSON, the exchange fails with the
status of a refusal or has the object as its result, and the caller is told so, as far as the reason
can be written. If the answer is any other value a refusal is no failure of the service and a
success has no object as its result; either way the endpoint breaks down. -/
theorem exchange_told_of_object {settings : SiteSettings}
    (hclient : SiteClient.create settings = .ok client) (status : Nat)
    (bytes : List UInt8) (text : Runes) :
    (∀ code made, (client.exchangeCode code).request? = some made → made.url.scheme ≠ "" →
      let result := (client.exchangeCode code).result (.answered status bytes text)
      (∀ tokens, SiteAnswer.content bytes = .object tokens →
        result = if 400 ≤ status ∧ status ≤ 599 then
          .error (.refused status (SiteClient.refusal tokens)) else .ok (.object tokens)) ∧
      ((∀ tokens, SiteAnswer.content bytes ≠ .object tokens) →
        result = if 400 ≤ status ∧ status ≤ 599 then
          .error (.notObject (SiteAnswer.content bytes))
          else .ok (SiteAnswer.content bytes))) ∧
    ∀ (b : Bridge) (request : Request) (code : String), b.client = some client →
      Endpoint.find b.setup.host request = .ok .callback →
      request.parameter? "code" = some code → code ≠ "" →
      (b.auth.consume b.clock (request.parameter? "state")).2 = true →
      let asked := (b.takeRequest request (.answered status bytes text)).2
      ∃ response, (b.takeRequest request (.answered status bytes text)).1.events =
          b.events ++ [.responded b.requests response] ∧
        (client.settings.tokenUrl = SiteSettings.defaultTokenUrl →
          ∃ made, asked = some made ∧ made.url.scheme ≠ "") ∧
        ∀ made, asked = some made → made.url.scheme ≠ "" →
          (∀ tokens, SiteAnswer.content bytes = .object tokens →
            response.TellsExchange status tokens) ∧
          ((∀ tokens, SiteAnswer.content bytes ≠ .object tokens) →
            response.status = 500 ∧ response.content = .text "Internal Server Error" ∧
              response.cause = some (.site (.notObject (SiteAnswer.content bytes)))) := by
  refine ⟨fun code made hmade hscheme => ?_, fun b request code hb hfind hcode hgiven hstate => ?_⟩
  · dsimp only
    rw [SiteClient.exchangeCode, SiteClient.result_send hclient hmade hscheme]
    refine ⟨fun tokens htokens => ?_, SiteClient.concludeExchange_of_other⟩
    exact SiteClient.concludeExchange_of_object htokens
  · obtain ⟨headers, hevents, hasked⟩ :=
      takeRequest_callback hb hfind hcode hgiven hstate (.answered status bytes text)
    dsimp only
    rw [hasked]
    refine ⟨_, hevents, fun hurl => SiteClient.exists_exchangeCode client hurl code,
      fun made hmade hscheme => ?_⟩
    rw [SiteClient.exchangeCode, SiteClient.result_send hclient hmade hscheme]
    refine ⟨fun tokens htokens => exchanged_of_object htokens, fun hother => ?_⟩
    rw [exchanged_of_other hother]
    exact ⟨rfl, rfl, rfl⟩

/-- A bridge where one authorization was begun. -/
def awaitingCode : Bridge :=
  { tokenedBridge with auth := ⟨tokenedBridge.auth.lifetime, [("issued", 0)]⟩ }

/-- The request that ends it. -/
def bringingCode : Request := ⟨"GET", "/auth/callback", "code=given&state=issued", [], []⟩

theorem find_bringingCode (host : String) : Endpoint.find host bringingCode = .ok .callback :=
  Endpoint.find_of_path (by decide +kernel) rfl host

theorem code_bringingCode : bringingCode.parameter? "code" = some "given" := by decide +kernel

theorem state_bringingCode : (awaitingCode.auth.consume awaitingCode.clock
    (bringingCode.parameter? "state")).2 = true := by decide +kernel

/-- A body that holds nothing is no JSON. -/
theorem content_nil : SiteAnswer.content [] = .object [] := by
  rw [SiteAnswer.content, Json.readBody?_nil]

/-- A refusal that does not say more is told, and so is a token. -/
theorem exchange_told_of_object_refused :
    let granted := (Json.object [("access_token", .text "token")]).bytes
    (∃ reason, (tokenedClient.exchangeCode "given").result (.answered 400 []) =
        .error (.refused 400 reason)) ∧
      (∃ response, (awaitingCode.takeRequest bringingCode (.answered 400 [])).1.events =
        [.responded 0 response] ∧ response.status = 500) ∧
      ∃ response, (awaitingCode.takeRequest bringingCode (.answered 200 granted)).1.events =
        [.responded 0 response] ∧ response.TellsExchange 200 [("access_token", .text "token")] := by
  intro granted
  have hgranted : SiteAnswer.content granted = .object [("access_token", .text "token")] := by
    rw [SiteAnswer.content, (Json.lasts_object_text _ _).readBody?_bytes (by decide +kernel)]
  obtain ⟨hrefused, hcallback⟩ := exchange_told_of_object create_tokened 400 [] _
  obtain ⟨_, htold⟩ := exchange_told_of_object create_tokened 200 granted _
  obtain ⟨made, hmade, hscheme⟩ := SiteClient.exists_exchangeCode tokenedClient rfl "given"
  obtain ⟨response, hevents, hasked, hends⟩ := hcallback awaitingCode bringingCode "given" rfl
    (find_bringingCode _) code_bringingCode (by decide) state_bringingCode
  obtain ⟨granting, hgranting, hmore, hall⟩ := htold awaitingCode bringingCode "given" rfl
    (find_bringingCode _) code_bringingCode (by decide) state_bringingCode
  obtain ⟨asked, hmade', hscheme'⟩ := hasked rfl
  obtain ⟨posted, hposted, hposted_scheme⟩ := hmore rfl
  have hwhole : (SiteClient.refusal []).isWhole = true := Runes.isWhole_ofString _
  refine ⟨⟨_, ((hrefused "given" made hmade hscheme).1 [] content_nil).trans (if_pos (by decide))⟩,
    ⟨response, hevents, ?_⟩, granting, hgranting, ?_⟩
  · obtain ⟨_, _, htells⟩ := (hends asked hmade' hscheme').1 [] content_nil
    rw [if_pos (by decide), if_pos hwhole] at htells
    exact htells.1
  · exact (hall posted hposted hposted_scheme).1 _ hgranted

/-- A list is neither tokens nor a reason: a refusal with one has no status, and the endpoint breaks
down; without a refusal the list is the result. -/
theorem list_breaks_exchange :
    let list := (Json.list []).bytes
    (tokenedClient.exchangeCode "given").result (.answered 400 list) =
        .error (.notObject (.list [])) ∧
      (tokenedClient.exchangeCode "given").result (.answered 200 list) = .ok (.list []) ∧
      ∃ response, (awaitingCode.takeRequest bringingCode (.answered 400 list)).1.events =
        [.responded 0 response] ∧ response.status = 500 ∧
        response.content = .text "Internal Server Error" ∧
        response.cause = some (.site (.notObject (.list []))) := by
  intro list
  obtain ⟨made, hmade, hscheme⟩ := SiteClient.exists_exchangeCode tokenedClient rfl "given"
  have hlist : SiteAnswer.content list = .list [] := by
    rw [SiteAnswer.content, (Json.lasts_iff.mpr rfl).readBody?_bytes (by decide +kernel)]
  have hresult : ∀ status, (tokenedClient.exchangeCode "given").result (.answered status list) =
      if 400 ≤ status ∧ status ≤ 599 then .error (.notObject (.list [])) else .ok (.list []) := by
    intro status
    rw [SiteClient.exchangeCode, SiteClient.result_send create_tokened hmade hscheme,
      SiteClient.concludeExchange_of_other (by simp [hlist]), hlist]
  obtain ⟨headers, hevents, _⟩ := takeRequest_callback (b := awaitingCode) rfl
    (find_bringingCode _) code_bringingCode (by decide) state_bringingCode (.answered 400 list)
  have hrefused := (hresult 400).trans (if_pos (by decide))
  refine ⟨hrefused, (hresult 200).trans (if_neg (by decide)), _, hevents, ?_⟩
  rw [hrefused]
  exact ⟨rfl, rfl, rfl⟩

end Bridge

end DesignBridge
