import DesignBridge.Proofs.Text.Pieces
import DesignBridge.Proofs.Web.Form
import DesignBridge.Proofs.Web.Url
import DesignBridge.Site.Client

/-! # The address at which access is asked for

Its query is the form of the parameters, and so it is read as just these: no value adds, drops or
changes another one.
-/

namespace DesignBridge

open Text

namespace Form

theorem isQueryChar_of_mem_encodeText {c : Char} {s : String} (h : c ∈ encodeText s) :
    UrlParts.isQueryChar c = true := by
  have hunreserved : ∀ c, Percent.isUnreserved c = true → UrlParts.isQueryChar c = true := by
    have hcheck : ∀ n < 0x80, Percent.isUnreserved (Char.ofNat n) = true →
        UrlParts.isQueryChar (Char.ofNat n) = true := by decide +kernel
    intro c hc
    simpa using hcheck c.toNat (Percent.lt_of_isUnreserved hc) (by simpa using hc)
  obtain ⟨d, _, hd⟩ := List.mem_flatMap.mp h
  obtain rfl | hc | rfl | hc := mem_encodeChar hd
  · rfl
  · exact hunreserved c hc
  · rfl
  · exact UrlParts.isQueryChar_isPlain.digits c hc

/-- Nothing in a form needs an escape in a query. -/
theorem isQueryChar_of_mem_encode {c : Char} {pairs : Entries String String}
    (h : c ∈ (encode pairs).toList) : UrlParts.isQueryChar c = true := by
  rw [encode, String.toList_ofList, interleave_eq] at h
  have hpiece : ∀ piece ∈ pairs.map encodePair, ∀ d ∈ piece, UrlParts.isQueryChar d = true := by
    intro piece hmem d hd
    obtain ⟨pair, _, rfl⟩ := List.mem_map.mp hmem
    obtain hd | hd := List.mem_append.mp hd
    · exact isQueryChar_of_mem_encodeText hd
    · obtain rfl | hd := List.mem_cons.mp hd
      · rfl
      · exact isQueryChar_of_mem_encodeText hd
  generalize pairs.map encodePair = pieces at h hpiece
  induction pieces with
  | nil => cases h
  | cons piece rest ih =>
      cases rest with
      | nil => exact hpiece piece List.mem_cons_self c (by simpa using h)
      | cons next rest =>
          rw [List.intercalate_cons_cons] at h
          obtain h | h := List.mem_append.mp h
          · obtain h | h := List.mem_append.mp h
            · exact hpiece piece List.mem_cons_self c h
            · obtain rfl := List.mem_singleton.mp h
              rfl
          · exact ih h fun piece hmem => hpiece piece (List.mem_cons_of_mem _ hmem)

end Form

namespace SiteSettings

/-- The scopes that are taken from the environment are words. -/
theorem isWord_of_mem_scopes_load {env : Environment} {scope : String}
    (h : scope ∈ (load env).scopes) : IsWord scope :=
  isWord_of_mem_words h

end SiteSettings

namespace SiteClient

/-- Whether parameters ask for access to scopes in the name of a client, and no more. -/
structure Asks (clientId state : String) (redirectUri : Option String) (scopes : List String)
    (pairs : Entries String String) : Prop where
  once : pairs.keys.Nodup
  only : pairs.keys ⊆ ["client_id", "state", "response_type", "redirect_uri", "scope"]
  clientId : pairs.lookup "client_id" = some clientId
  state : pairs.lookup "state" = some state
  responseType : pairs.lookup "response_type" = some "code"
  redirectUri : pairs.lookup "redirect_uri" = redirectUri
  scope : (pairs.lookup "scope").map words = if scopes = [] then none else some scopes

theorem asks_authorizationPairs {settings : SiteSettings}
    (h : ∀ scope ∈ settings.scopes, IsWord scope) (clientId state : String) :
    Asks clientId state (settings.redirectUri.filter (· ≠ "")) settings.scopes
      (authorizationPairs settings clientId state) := by
  have hwords := words_joinWith h
  unfold authorizationPairs
  generalize settings.redirectUri.filter (· ≠ "") = redirectUri
  generalize settings.scopes = scopes at hwords
  cases redirectUri <;> cases scopes <;> constructor <;>
    simp [Entries.keys, List.lookup_cons, hwords]

/-- The default address at which access is asked for, with its query. -/
def consent (query : Option String) : Url :=
  ⟨"https", "", "webflow.com", none, "/oauth/authorize", query, none⟩

theorem text_consent (query : String) :
    (consent (some query)).text = SiteSettings.defaultAuthorizeUrl ++ "?" ++ query := by
  have hplain : (consent none).text = SiteSettings.defaultAuthorizeUrl := by
    simp [consent, Url.text, Url.authority, SiteSettings.defaultAuthorizeUrl]
  have hquery : (consent (some query)).text = (consent none).text ++ "?" ++ query :=
    Url.text_withQuery (u := consent none) rfl query
  rw [hquery, hplain]

/-- The form of the parameters needs no more escapes to be a query. -/
theorem parseWithQuery_default {pairs : Entries String String}
    (h : (Form.encode pairs).length ≤ Url.maxLength) :
    Url.parseWithQuery SiteSettings.defaultAuthorizeUrl (Form.encode pairs) =
      .ok (consent (some (Form.encode pairs))) := by
  have hcheck : Url.check SiteSettings.defaultAuthorizeUrl = .ok () := rfl
  have hpart : Url.checkPart .query (Form.encode pairs).length = .ok () := if_neg (by omega)
  have hplain : (UrlParts.cut SiteSettings.defaultAuthorizeUrl.toList).toUrl = .ok (consent none) :=
    rfl
  have hencode : Percent.encode UrlParts.isQueryChar (Form.encode pairs).toList =
      (Form.encode pairs).toList :=
    Percent.encode_of_safe fun c hc => Form.isQueryChar_of_mem_encode hc
  unfold Url.parseWithQuery
  rw [hcheck, hpart, UrlParts.toUrl_withQuery, hplain]
  simp [bind, Except.bind, Except.map, hencode, consent]

/-- The address asks for just what the settings say: its text is the default one with a query, of
which the parameters are read again. -/
theorem consent_asked {client : SiteClient} {clientId : String}
    (hurl : client.settings.authorizeUrl = SiteSettings.defaultAuthorizeUrl)
    (hclientId : client.settings.clientId = some clientId) (hgiven : clientId ≠ "")
    (hscopes : ∀ scope ∈ client.settings.scopes, IsWord scope) (state : String)
    (hfits : (Form.encode (authorizationPairs client.settings clientId state)).length ≤
      Url.maxLength) :
    ∃ url query, client.authorizationUrl state = .ok url ∧
      url.text = SiteSettings.defaultAuthorizeUrl ++ "?" ++ query ∧
      (UrlParts.cut url.text.toList).query = some query.toList ∧
      Asks clientId state (client.settings.redirectUri.filter (· ≠ "")) client.settings.scopes
        (Form.decode query) := by
  have hfilter : client.settings.clientId.filter (· ≠ "") = some clientId := by
    simp [hclientId, hgiven]
  have hasks := asks_authorizationPairs hscopes clientId state
  generalize hpairs : authorizationPairs client.settings clientId state = pairs at hfits hasks
  have hhash : '#' ∉ (Form.encode pairs).toList := fun hc => by
    cases Form.isQueryChar_of_mem_encode hc
  refine ⟨consent (some (Form.encode pairs)), Form.encode pairs, ?_, text_consent _, ?_, ?_⟩
  · unfold authorizationUrl
    simp only [hfilter, hpairs, hurl, parseWithQuery_default hfits]
    rfl
  · rw [text_consent, String.append_assoc, String.toList_append, String.toList_append]
    exact UrlParts.cut_query (by decide) (by decide) hhash
  · rw [Form.decode_encode]
    exact hasks

/-- Values that look like parameters themselves stay values. -/
theorem consent_asked_marked :
    let env : Environment := ((Table.empty.insert "WEBFLOW_CLIENT_ID" "a&b=c +%20é").insert
      "WEBFLOW_REDIRECT_URI" "https://localhost/?state=x&scope=y#z").insert
      "WEBFLOW_SCOPES" " sites:read\tcms:write&x "
    let client : SiteClient := ⟨.load env, consent none⟩
    client.settings.scopes = ["sites:read", "cms:write&x"] ∧
      client.settings.redirectUri = some "https://localhost/?state=x&scope=y#z" ∧
      ∃ url query, client.authorizationUrl "s&client_id=other" = .ok url ∧
        url.text = SiteSettings.defaultAuthorizeUrl ++ "?" ++ query ∧
        (UrlParts.cut url.text.toList).query = some query.toList ∧
        Asks "a&b=c +%20é" "s&client_id=other" (client.settings.redirectUri.filter (· ≠ ""))
          client.settings.scopes (Form.decode query) := by
  intro env client
  have hfits : (Form.encode (authorizationPairs client.settings "a&b=c +%20é"
      "s&client_id=other")).length ≤ Url.maxLength := by
    rw [Form.encode, String.length_ofList]
    decide +kernel
  refine ⟨by decide +kernel, by decide +kernel, ?_⟩
  exact consent_asked rfl (by decide +kernel) (by decide)
    (fun _ hscope => SiteSettings.isWord_of_mem_scopes_load hscope) _ hfits

end SiteClient

end DesignBridge
