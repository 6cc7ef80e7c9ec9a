import DesignBridge.Json.Encoded
import DesignBridge.Json.Writer
import DesignBridge.Settings.Site
import DesignBridge.Web.Base64
import DesignBridge.Web.Form
import DesignBridge.Web.Url

/-! # The client of the site's API

What is asked of the site's API and what is made of its answers. A call makes at most one request,
so it is a value: either a result, or a request together with what follows from the answer. Nothing
is tried again; an answer with an error status, a transfer that fails and a request that cannot be
put together are different failures.
-/

namespace DesignBridge

/-- A request to the site's API. -/
structure SiteRequest where
  method : String
  url : Url
  authorization : Option String
  accept : String
  body : Option Json

/-- Why a call fails. -/
inductive SiteError where
  /-- The answer has an error status. -/
  | refused (status : Nat) (reason : Runes)
  /-- No answer came through; the kind is named by whoever made the transfer. -/
  | transfer (kind message : String)
  /-- Something went wrong that is no fault of the transfer. -/
  | internal (kind message : String)
  | address (fault : UrlFault)
  /-- A header holds characters outside ASCII, beginning at a place. -/
  | header (text : String) (position : Nat)
  /-- The request holds what it cannot be written with. -/
  | unencodable (fault : Json.EncodingFault)
  /-- An answer came from an address whose type cannot be told. -/
  | untyped (url : Url)
  | noClientId
  /-- The answer to a code is a refusal, but no object. -/
  | notObject (answer : Json)

namespace SiteError

/-- The wording for a header with characters outside ASCII: the run of them that comes first. -/
def headerMessage (text : String) (position : Nat) : String :=
  let run := (text.toList.drop position).takeWhile fun c => 0x80 ≤ c.toNat
  let place := match run with
    | [c] => "character '" ++ String.ofList (Text.numericEscape c) ++ "' in position " ++
        Number.intText position
    | _ => "characters in position " ++ Number.intText position ++ "-" ++
        Number.intText (position + run.length - 1)
  "'ascii' codec can't encode " ++ place ++ ": ordinal not in range(128)"

def message : SiteError → Runes
  | refused status reason => "API Error " ++ Number.intText status ++ ": " ++ reason
  | transfer _ message => message
  | internal _ message => message
  | address fault => fault.message
  | header text position => headerMessage text position
  | unencodable fault => fault.message
  | untyped url => "unknown url type: " ++ Text.quoted url.textTrimmed
  | noClientId => "OAuth not configured. Missing WEBFLOW_CLIENT_ID."
  | notObject answer => "'" ++ answer.typeName ++ "' object has no attribute 'get'"

/-- Whether the service is to blame: it refused, or could not be reached. -/
def isServiceFailure : SiteError → Bool
  | refused .. => true
  | transfer .. => true
  | _ => false

end SiteError

/-- What comes of a request. -/
inductive SiteAnswer where
  /-- The text is what the body says in the encoding that the answer names; if it names none, that
  is UTF-8. -/
  | answered (status : Nat) (body : List UInt8)
      (text : Runes := String.ofList (Utf8.decode body))
  | failed (error : SiteError)

namespace SiteAnswer

def isErrorStatus (status : Nat) : Bool :=
  400 ≤ status && status ≤ 599

/-- The value that an answer holds; one without or with unreadable JSON counts as an empty
object. -/
def content (body : List UInt8) : Json :=
  match Json.readBody? body with
  | .ok value => value
  | .error _ => .object []

end SiteAnswer

/-- A call: it has a result already, or makes one request. -/
inductive SiteCall (α : Type) where
  | done (result : α)
  | ask (request : SiteRequest) (conclude : SiteAnswer → α)

namespace SiteCall

variable {α β : Type}

/-- Applies a function to the result. -/
def map (f : α → β) : SiteCall α → SiteCall β
  | done a => done (f a)
  | ask request conclude => ask request fun answer => f (conclude answer)

/-- The request that is made, if there is one. -/
def request? : SiteCall α → Option SiteRequest
  | done _ => none
  | ask request _ => some request

/-- The result, when a request would be answered in a given way. -/
def result (answer : SiteAnswer) : SiteCall α → α
  | done a => a
  | ask _ conclude => conclude answer

end SiteCall

/-- A client: its settings, and the base of relative addresses. -/
structure SiteClient where
  settings : SiteSettings
  base : Url

/-- What a check of the API finds. -/
inductive ApiStatus where
  | notTested
  | connected
  | failed
  deriving DecidableEq, Repr

def ApiStatus.name : ApiStatus → String
  | notTested => "not_tested"
  | connected => "connected"
  | failed => "failed"

namespace SiteClient

/-- Sets up a client. -/
def create (settings : SiteSettings) : Except UrlFault SiteClient := do
  let base ← (← Url.parse settings.apiBaseUrl).asBase
  return ⟨settings, base⟩

/-- The authorization with the token of the site, if there is one. -/
def bearer? (settings : SiteSettings) : Option String :=
  (settings.siteToken.filter (· ≠ "")).map ("Bearer " ++ ·)

/-- The authorization of an address that names a user. -/
def basic? (url : Url) : Option String :=
  url.credentials?.map fun (name, password) =>
    "Basic " ++ String.ofList (Base64.encode (Utf8.encode (name ++ ':' :: password)))

/-- Puts a request together. An address that names a user takes the place of the authorization. -/
def prepare (client : SiteClient) (method endpoint : String) (authorization : Option String)
    (accept : String) (body : Option Json) : Except SiteError SiteRequest := do
  let url ← (Url.parse endpoint).mapError .address
  let url ← (client.base.append url).mapError .address
  -- A fault of the header outweighs one of the body.
  match authorization with
  | none => pure ()
  | some header => match header.toList.findIdx? fun c => 0x80 ≤ c.toNat with
    | some position => throw (.header header position)
    | none => pure ()
  match body.bind Json.encodingFault? with
  | some fault => throw (.unencodable fault)
  | none => pure ()
  return ⟨Text.upper method, url, (basic? url).or authorization, accept, body⟩

/-- Makes a request, if it can be put together. -/
def send (client : SiteClient) (method endpoint : String) (authorization : Option String)
    (accept : String) (body : Option Json)
    (conclude : Nat → List UInt8 → Runes → Except SiteError Json) :
    SiteCall (Except SiteError Json) :=
  match client.prepare method endpoint authorization accept body with
  | .error e => .done (.error e)
  | .ok request => .ask request fun
    | .failed e => .error e
    | .answered status body text =>
      -- The type is asked for when an answer is there, so the request was made all the same.
      if request.url.hasType then conclude status body text else .error (.untyped request.url)

/-- A request to the API, with the token of the site. -/
def request (client : SiteClient) (method endpoint : String) (body : Option Json) :
    SiteCall (Except SiteError Json) :=
  client.send method endpoint (bearer? client.settings) "application/json" body
    fun status body text =>
      if SiteAnswer.isErrorStatus status then
        .error (.refused status (if text = "" then "Unknown error" else text))
      else .ok (SiteAnswer.content body)

def listSites (client : SiteClient) : SiteCall (Except SiteError Json) :=
  client.request "GET" "/sites" none

/-- The address at which a site is published. Half of a surrogate pair cannot be escaped in it; that
comes out once the address is taken for one. -/
def publishAddress (siteId : Runes) : Except SiteError String :=
  let address := "/sites/" ++ siteId.shown ++ "/publish"
  match Utf8.encodeFault? siteId with
  | none => .ok address
  | some fault =>
    match Url.check address with
    | .error e => .error (.address e)
    -- Every place is escaped by itself.
    | .ok () => .error (.unencodable (.halves ⟨fault.first, 0, 1⟩))

/-- Publishes a site to domains, and perhaps to the subdomain of the service. -/
def publish (client : SiteClient) (siteId : Runes) (domainIds : List Runes)
    (toSubdomain : Bool) : SiteCall (Except SiteError Json) :=
  match publishAddress siteId with
  | .error e => .done (.error e)
  | .ok address =>
    client.request "POST" address (some (.object
      [("customDomains", .list (domainIds.map .text)),
        ("publishToWebflowSubdomain", .bool toSubdomain)]))

/-- Checks whether the API can be used. Without a token it is not tried. -/
def checkApi (client : SiteClient) : SiteCall (Except SiteError ApiStatus) :=
  if client.settings.hasSiteToken then client.listSites.map fun
    | .ok _ => .ok .connected
    | .error e => if e.isServiceFailure then .ok .failed else .error e
  else .done (.ok .notTested)

/-- The parameters of the address at which access is asked for. -/
def authorizationPairs (settings : SiteSettings) (clientId state : String) :
    Entries String String :=
  [("client_id", clientId), ("state", state), ("response_type", "code")] ++
    ((settings.redirectUri.filter (· ≠ "")).map fun uri => ("redirect_uri", uri)).toList ++
    (if settings.scopes.isEmpty then [] else [("scope", Text.joinWith " " settings.scopes)])

/-- The address at which access is asked for. -/
def authorizationUrl (client : SiteClient) (state : String) : Except SiteError Url :=
  let settings := client.settings
  match settings.clientId.filter (· ≠ "") with
  | none => .error .noClientId
  | some clientId =>
    (Url.parseWithQuery settings.authorizeUrl
      (Form.encode (authorizationPairs settings clientId state))).mapError .address

/-- What is sent to exchange a code. -/
def exchangeBody (settings : SiteSettings) (code : String) : Json :=
  .object (("client_id", Json.ofString? settings.clientId) ::
    ("client_secret", Json.ofString? settings.clientSecret) :: ("code", .text code) ::
    ("grant_type", .text "authorization_code") ::
    match settings.redirectUri.filter (· ≠ "") with
    | some uri => [("redirect_uri", .text uri)]
    | none => [])

/-- What is made of the answer to a code: the tokens, or the reason that is given. -/
def concludeExchange (status : Nat) (body : List UInt8) : Except SiteError Json :=
  let tokens := SiteAnswer.content body
  if SiteAnswer.isErrorStatus status then
    match tokens with
    | .object members =>
      let reason := (members.lookup ↑"error_description").filter Json.isTruthy
      .error (.refused status ((reason.map Json.display).getD "OAuth token exchange failed"))
    | _ => .error (.notObject tokens)
  else .ok tokens

/-- Exchanges a code for tokens. -/
def exchangeCode (client : SiteClient) (code : String) : SiteCall (Except SiteError Json) :=
  client.send "POST" client.settings.tokenUrl none "*/*" (some (exchangeBody client.settings code))
    fun status body _ => concludeExchange status body

end SiteClient

end DesignBridge
