import DesignBridge.Proofs.Json.Body
import DesignBridge.Proofs.Web.Url
import DesignBridge.Site.Client

/-! # Requests to the site's API

A request is put together from an address that is appended to the base of its client. Schemes come
from the settings or from the address itself, so a request that has one says of what type its
address is, and its answer is judged.
-/

namespace DesignBridge

open UrlParts

namespace Url

theorem parse_isScheme {s : String} {u : Url} (h : parse s = .ok u) : IsScheme u.scheme :=
  (parse_eq_ok h).isScheme (isScheme_cut s.toList)

theorem withTarget_isScheme {u v : Url} {target : String} (h : u.withTarget target = .ok v)
    (hu : IsScheme u.scheme) : IsScheme v.scheme :=
  (withTarget_eq_ok h).isScheme (by simpa [partsWith] using hu)

theorem append_isScheme {base u v : Url} (h : base.append u = .ok v) (hbase : IsScheme base.scheme)
    (hu : IsScheme u.scheme) : IsScheme v.scheme := by
  unfold append at h
  split at h
  next => exact Except.ok.inj h ▸ hu
  next => exact withTarget_isScheme h hbase

end Url

namespace SiteCall

variable {α β : Type}

@[simp] theorem result_map (f : α → β) (call : SiteCall α) (answer : SiteAnswer) :
    (call.map f).result answer = f (call.result answer) := by
  cases call <;> rfl

@[simp] theorem request?_map (f : α → β) (call : SiteCall α) :
    (call.map f).request? = call.request? := by
  cases call <;> rfl

end SiteCall

namespace SiteClient

variable {settings : SiteSettings} {client : SiteClient} {made : SiteRequest}
  {method endpoint accept : String} {authorization : Option String} {body : Option Json}

/-- The base of a client is the address of its settings, with a target that ends in a slash. -/
theorem create_eq_ok (h : create settings = .ok client) : client.settings = settings ∧
    ∃ u, Url.parse settings.apiBaseUrl = .ok u ∧ u.asBase = .ok client.base := by
  obtain ⟨u, hparse, h⟩ := exists_of_bind_eq_ok h
  obtain ⟨base, hbase, h⟩ := exists_of_bind_eq_ok h
  obtain rfl := Except.ok.inj h
  exact ⟨rfl, u, hparse, hbase⟩

theorem isScheme_base (h : create settings = .ok client) : IsScheme client.base.scheme := by
  obtain ⟨_, u, hparse, hbase⟩ := create_eq_ok h
  have hu := Url.parse_isScheme hparse
  unfold Url.asBase at hbase
  split at hbase
  next => exact Except.ok.inj hbase ▸ hu
  next => exact Url.withTarget_isScheme hbase hu

/-- What a request that is put together is made of. -/
theorem prepare_eq_ok (h : client.prepare method endpoint authorization accept body = .ok made) :
    ∃ u, Url.parse endpoint = .ok u ∧ client.base.append u = .ok made.url ∧
      made.method = Text.upper method ∧
      made.authorization = (basic? made.url).or authorization ∧ made.body = body := by
  obtain ⟨u, hparse, h⟩ := exists_of_bind_eq_ok h
  obtain ⟨url, happend, h⟩ := exists_of_bind_eq_ok h
  have hmade : ⟨Text.upper method, url, (basic? url).or authorization, accept, body⟩ = made := by
    dsimp only at h
    repeat' split at h
    all_goals first | exact Except.ok.inj h | cases h
  subst hmade
  exact ⟨u, mapError_eq_ok_iff.mp hparse, mapError_eq_ok_iff.mp happend, rfl, rfl, rfl⟩

/-- Below a base with a scheme all requests have one. -/
theorem scheme_ne_of_prepare (hbase : client.base.scheme ≠ "")
    (h : client.prepare method endpoint authorization accept body = .ok made) :
    made.url.scheme ≠ "" := by
  obtain ⟨u, _, happend, _⟩ := prepare_eq_ok h
  unfold Url.append at happend
  split at happend
  next habsolute =>
    obtain rfl := Except.ok.inj happend
    unfold Url.isAbsolute at habsolute
    rw [Bool.and_eq_true, decide_eq_true_eq] at habsolute
    exact habsolute.1
  next =>
    rw [(Url.withTarget_eq_ok happend).scheme]
    simpa [Url.partsWith, Text.lowerAscii] using hbase

/-- A request with a header in ASCII and an encodable body is put together if its address is. -/
theorem prepare_of_append {u url : Url} (hparse : Url.parse endpoint = .ok u)
    (happend : client.base.append u = .ok url)
    (hheader : ∀ header, authorization = some header →
      header.toList.findIdx? (fun c => 0x80 ≤ c.toNat) = none)
    (hbody : ∀ value ∈ body, value.isEncodable = true) :
    client.prepare method endpoint authorization accept body =
      .ok ⟨Text.upper method, url, (basic? url).or authorization, accept, body⟩ := by
  have hread := (mapError_eq_ok_iff (f := SiteError.address)).mpr hparse
  have hurl := (mapError_eq_ok_iff (f := SiteError.address)).mpr happend
  have hsound : body.bind Json.encodingFault? = none := by
    cases body with
    | none => rfl
    | some value => exact Json.encodingFault?_eq_none_iff.mpr (hbody value rfl)
  unfold prepare
  simp only [hread, hurl, hsound, bind, Except.bind]
  cases authorization with
  | none => rfl
  | some header => simp only [hheader header rfl]; rfl

/-- A site whose name is a string has an address at which it is published. -/
theorem publish_ofString (client : SiteClient) (siteId : String) (domainIds : List Runes)
    (toSubdomain : Bool) : client.publish siteId domainIds toSubdomain =
      client.request "POST" ("/sites/" ++ siteId ++ "/publish") (some (.object
        [("customDomains", .list (domainIds.map .text)),
          ("publishToWebflowSubdomain", .bool toSubdomain)])) := by
  have hwhole := Utf8.encodeFault?_eq_none_iff.mpr (Runes.isWhole_ofString siteId)
  simp [publish, publishAddress, hwhole]

/-- Nothing is asked about a site whose name is none. -/
theorem exists_string_of_publish {named : Runes} {domainIds : List Runes} {toSubdomain : Bool}
    (h : (client.publish named domainIds toSubdomain).request? = some made) :
    ∃ siteId : String, named = siteId := by
  unfold publish publishAddress at h
  dsimp only at h
  split at h
  next => cases h
  next heq =>
    split at heq
    next hsound => exact Runes.isWhole_iff.mp (Utf8.encodeFault?_eq_none_iff.mp hsound)
    next => split at heq <;> cases heq

/-- A request is made just if it can be put together. -/
theorem request?_send (conclude : Nat → List UInt8 → Runes → Except SiteError Json) :
    (client.send method endpoint authorization accept body conclude).request? = some made ↔
      client.prepare method endpoint authorization accept body = .ok made := by
  unfold send
  cases client.prepare method endpoint authorization accept body with
  | error e => simp [SiteCall.request?]
  | ok request => simp [SiteCall.request?]

/-- Of a request whose address has a scheme the answer is judged. -/
theorem result_send (hclient : create settings = .ok client)
    {conclude : Nat → List UInt8 → Runes → Except SiteError Json}
    (h : (client.send method endpoint authorization accept body conclude).request? = some made)
    (hscheme : made.url.scheme ≠ "") (status : Nat) (answer : List UInt8) (text : Runes) :
    (client.send method endpoint authorization accept body conclude).result
      (.answered status answer text) = conclude status answer text := by
  have hprepare := (request?_send conclude).mp h
  obtain ⟨u, hparse, happend, _⟩ := prepare_eq_ok hprepare
  have htype : made.url.hasType = true := Url.hasType_of_isScheme
    (Url.append_isScheme happend (isScheme_base hclient) (Url.parse_isScheme hparse)) hscheme
  unfold send
  rw [hprepare]
  exact if_pos htype

/-- Without a request, it is settled beforehand that there is an error. -/
theorem result_of_request?_none {conclude : Nat → List UInt8 → Runes → Except SiteError Json}
    (h : (client.send method endpoint authorization accept body conclude).request? = none)
    (answer : SiteAnswer) : ∃ e,
    (client.send method endpoint authorization accept body conclude).result answer = .error e := by
  unfold send at h ⊢
  cases hprepare : client.prepare method endpoint authorization accept body with
  | error e => exact ⟨e, rfl⟩
  | ok request =>
      rw [hprepare] at h
      cases h

end SiteClient

/-! ## The address of the API when none is set -/

namespace Url

/-- The base of the API, when no other is set. -/
def apiBase : Url := ⟨"https", "", "api.webflow.com", none, "/v2/", none, none⟩

theorem withTarget_api (path target : String) :
    withTarget ⟨"https", "", "api.webflow.com", none, path, none, none⟩ target = (do
      let cut := cutAt '?' target.toList
      checkPart .path cut.1.length
      checkPart .query (cut.2.getD []).length
      toUrl ⟨"https".toList, "api.webflow.com".toList, cut.1, cut.2, none⟩) := by
  have hauthority : authority ⟨"https", "", "api.webflow.com", none, path, none, none⟩ =
      "api.webflow.com" := by simp [authority]
  unfold withTarget
  simp only [hauthority]
  rfl

/-- A relative address is put below the base. -/
theorem append_api {u : Url} (h : u.isAbsolute = false) : apiBase.append u = (do
      let cut := cutAt '?' ("/v2/" ++ String.ofList (u.target.toList.dropWhile (· = '/'))).toList
      checkPart .path cut.1.length
      checkPart .query (cut.2.getD []).length
      toUrl ⟨"https".toList, "api.webflow.com".toList, cut.1, cut.2, none⟩) := by
  unfold append
  rw [h, if_neg Bool.false_ne_true]
  exact withTarget_api _ _

end Url

theorem SiteClient.create_default {settings : SiteSettings}
    (h : settings.apiBaseUrl = SiteSettings.defaultApiBaseUrl) :
    create settings = .ok ⟨settings, Url.apiBase⟩ := by
  have hparse : Url.parse SiteSettings.defaultApiBaseUrl =
      .ok ⟨"https", "", "api.webflow.com", none, "/v2", none, none⟩ := rfl
  have hbase : Url.asBase ⟨"https", "", "api.webflow.com", none, "/v2", none, none⟩ =
      .ok Url.apiBase := by
    have htarget : Url.target ⟨"https", "", "api.webflow.com", none, "/v2", none, none⟩ = "/v2" :=
      rfl
    unfold Url.asBase
    rw [htarget, Url.withTarget_api]
    rfl
  unfold create
  rw [h, hparse]
  show (Url.asBase _ >>= _) = _
  rw [hbase]
  rfl

end DesignBridge
