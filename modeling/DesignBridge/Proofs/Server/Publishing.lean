import DesignBridge.Proofs.Server.Upstream
import DesignBridge.Proofs.Site.Publication

/-! # Where a request to publish leads

The name of a site comes from whoever posts it, and the request to the API is made with the token of
the site. So what the name can do to the address decides what the token is sent with.
-/

namespace DesignBridge.Bridge

open Validation

variable {b : Bridge} {request : Request} {client : SiteClient} {posted : PublishRequest}
  {named : Runes} {siteId : String}

/-- A site that is named is the one that is published. -/
theorem takeRequest_publish (hclient : b.client = some client)
    (hfind : Endpoint.find b.setup.host request = .ok .publish)
    (hposted : PublishRequest.ofRequest request = .ok posted) (hsite : posted.siteId = some named)
    (hgiven : named ≠ "") (site : SiteAnswer) : (b.takeRequest request site).2 =
      (client.publish named posted.domainIds posted.toSubdomain).request? := by
  have hreact := react_publish (b := { b with requests := b.requests + 1 }) hclient request
  rw [hposted] at hreact
  obtain ⟨_, _, hasked⟩ := takeRequest_call hfind hreact site
  have hname : (posted.siteId.filter fun s : Runes => s ≠ "") = some named := by
    simp [hsite, hgiven]
  rw [hasked, publish, hname, Option.some_or]
  exact SiteCall.request?_map _ _

/-- The request that publishes a site is made with the token of the site, or as the user whom the
address names, and leads to the same place whatever the name of the site is. The name is a string
then. The request leads to where the site is published just if the name stands for itself as a
segment, and the address of the API has neither query nor fragment. -/
theorem publishes_iff_isSegment {settings : SiteSettings}
    (hcreate : SiteClient.create settings = .ok client) (hclient : b.client = some client)
    (hfind : Endpoint.find b.setup.host request = .ok .publish)
    (hposted : PublishRequest.ofRequest request = .ok posted) (hsite : posted.siteId = some named)
    (hgiven : named ≠ "") (site : SiteAnswer) {made : SiteRequest}
    (hmade : (b.takeRequest request site).2 = some made) :
    ∃ siteId : String, named = siteId ∧ made.method = "POST" ∧
      made.authorization = (SiteClient.basic? made.url).or (SiteClient.bearer? settings) ∧
      (made.url.IsBelow client.base ∧
        ∀ other : Url, other.IsBelow client.base → made.url.SamePlace other) ∧
      (made.url.Publishes client.base siteId ↔
        client.base.query = none ∧ client.base.fragment = none ∧ IsSegment siteId) := by
  rw [takeRequest_publish hclient hfind hposted hsite hgiven site] at hmade
  obtain ⟨siteId, rfl⟩ := SiteClient.exists_string_of_publish hmade
  rw [SiteClient.publish_ofString] at hmade
  have hprepare := (SiteClient.request?_send _).mp hmade
  obtain ⟨_, _, _, hmethod, hauthorization, _⟩ := SiteClient.prepare_eq_ok hprepare
  obtain ⟨target, htarget, _⟩ := SiteClient.publish_eq_withTarget hprepare
  rw [(SiteClient.create_eq_ok hcreate).1] at hauthorization
  have hbelow : made.url.IsBelow client.base := ⟨target, htarget⟩
  exact ⟨siteId, rfl, hmethod, hauthorization, ⟨hbelow, fun _ => hbelow.samePlace⟩,
    SiteClient.publishes_iff hcreate hprepare⟩

/-- What a request to publish holds that names a site and nothing else. -/
def naming (siteId : String) : Json := .object [("siteId", .text siteId)]

/-- A request to publish a site by its name. -/
def publishingSite (siteId : String) : Request :=
  ⟨"POST", "/publish", "", [("content-type", "application/json")], (naming siteId).bytes⟩

theorem find_publishingSite (host siteId : String) :
    Endpoint.find host (publishingSite siteId) = .ok .publish :=
  have hpath : Endpoint.ofPath? "/publish" = some .publish := by decide +kernel
  Endpoint.find_of_path hpath rfl host

theorem ofRequest_publishingSite (siteId : String)
    (hutf8 : Json.Encoding.detect (naming siteId).bytes = (.utf8, (naming siteId).bytes)) :
    PublishRequest.ofRequest (publishingSite siteId) = .ok ⟨some ↑siteId, [], true⟩ := by
  have hjson : ((publishingSite siteId).header? "content-type").any Body.isJsonType = true := by
    have htype : Body.isJsonType "application/json" = true := by decide +kernel
    exact htype
  have hlasts : (naming siteId).Lasts := Json.lasts_object_text "siteId" siteId
  have hread : Json.readBody? (publishingSite siteId).body = .ok (naming siteId) := by
    dsimp only [publishingSite]
    exact hlasts.readBody?_bytes hutf8
  have hfields : PublishRequest.read (naming siteId) = .accepted ⟨some ↑siteId, [], true⟩ := by
    simp [naming, PublishRequest.read, PublishRequest.readFields, readRecord, optionalField,
      fieldOr, FieldKey.find?, List.lookup_cons, nullable, readText]
  have hcheck : (Body.json (naming siteId)).check (.accepted .default) PublishRequest.read =
      .ok ⟨some ↑siteId, [], true⟩ := by
    rw [naming] at hfields ⊢
    unfold Body.check
    dsimp only
    rw [hfields]
    rfl
  unfold PublishRequest.ofRequest
  rw [Body.read_of_readBody? hjson hread]
  exact hcheck

/-- The request to the API is made with the token of the site. -/
theorem takeRequest_publishingSite {u url : Url}
    (hposted : PublishRequest.ofRequest (publishingSite siteId) = .ok ⟨some ↑siteId, [], true⟩)
    (hgiven : (siteId : Runes) ≠ "")
    (hparse : Url.parse ("/sites/" ++ siteId ++ "/publish") = .ok u)
    (happend : Url.apiBase.append u = .ok url) (site : SiteAnswer) : ∃ made,
    (tokenedBridge.takeRequest (publishingSite siteId) site).2 = some made ∧ made.url = url ∧
      made.authorization = (SiteClient.basic? url).or (some "Bearer token") := by
  rw [takeRequest_publish (b := tokenedBridge) rfl (find_publishingSite _ _) hposted rfl hgiven,
    SiteClient.publish_ofString]
  exact ⟨_, (SiteClient.request?_send _).mpr (prepare_tokened hparse happend
    (by simp [Json.isEncodable_object, Json.isEncodable_list])), rfl, rfl⟩

/-- The name of a site may hold blanks, which are escaped. -/
theorem publishes_iff_isSegment_blank : ∃ made,
    (tokenedBridge.takeRequest (publishingSite "a b") (.answered 200 [])).2 = some made ∧
      made.authorization = some "Bearer token" ∧ made.url.Publishes Url.apiBase "a b" := by
  have hposted := ofRequest_publishingSite "a b" (by decide +kernel)
  have hgiven : (("a b" : String) : Runes) ≠ "" := by decide
  obtain ⟨made, hmade, hurl, htoken⟩ := takeRequest_publishingSite hposted hgiven rfl
    ((Url.append_api rfl).trans rfl) (.answered 200 [])
  obtain ⟨siteId, hsame, _, _, _, hpublishes⟩ := publishes_iff_isSegment (b := tokenedBridge)
    create_tokened rfl (find_publishingSite _ _) hposted rfl hgiven (.answered 200 []) hmade
  obtain rfl := Runes.ofString_inj.mp hsame
  have hsegment : IsSegment "a b" := ⟨by decide, by decide, by decide, by decide, by decide⟩
  exact ⟨made, hmade, htoken, hpublishes.mpr ⟨rfl, rfl, hsegment⟩⟩

/-- A question mark in the name cuts the path short, and the rest becomes a query. The token is sent
with a request that leads elsewhere. -/
theorem question_mark_leads_astray : ∃ made,
    (tokenedBridge.takeRequest (publishingSite "a?b") (.answered 200 [])).2 = some made ∧
      made.authorization = some "Bearer token" ∧
      made.url = ⟨"https", "", "api.webflow.com", none, "/v2/sites/a", some "b/publish", none⟩ ∧
      ¬ made.url.Publishes Url.apiBase "a?b" := by
  have hposted := ofRequest_publishingSite "a?b" (by decide +kernel)
  obtain ⟨made, hmade, hurl, htoken⟩ := takeRequest_publishingSite hposted (by decide) rfl
    ((Url.append_api rfl).trans rfl) (.answered 200 [])
  refine ⟨made, hmade, htoken, hurl, fun h => ?_⟩
  have hquery := h.query
  rw [hurl] at hquery
  cases hquery

end DesignBridge.Bridge
