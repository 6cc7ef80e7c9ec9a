import DesignBridge.Server.Body
import DesignBridge.Server.Bridge
import DesignBridge.Server.Endpoint
import DesignBridge.Wire.Model

/-! # Handling requests

What each endpoint does with a request. It answers, perhaps after one request to the site's API, or
hands a task to the relay and answers when the submission has ended. The body is looked at in two
steps: that it is JSON comes before everything else, what it holds after the client is there.
-/

namespace DesignBridge

/-- What an endpoint does with a request. -/
inductive Reaction where
  | call (call : SiteCall Response)
  /-- A task for the relay. -/
  | submit (task : Json.Members)

namespace Reaction

/-- An answer that needs nothing else. -/
def answer (response : Response) : Reaction := .call (.done response)

end Reaction

namespace Bridge

/-- The version that the bridge reports. -/
def version : String := "1.0.0"

/-- What is said when no site is named. -/
def missingSite : String :=
  "Missing siteId. Please provide siteId or set WEBFLOW_SITE_ID environment variable."

def serviceFailure (more : Json.Members) (error : SiteError) : Response :=
  if error.isServiceFailure then
    let named : Json.Members := [("error", .text error.message)]
    Response.json 500 (.object (more ++ named))
  else Response.ofSiteError error

/-- What a request to publish is answered with, when there is an outcome. -/
def published : Except SiteError Json → Response
  | .ok result => Response.json 200 (.object [("ok", .bool true), ("result", result.kept)])
  | .error e => serviceFailure [("ok", .bool false)] e

/-- Publishes the site that a request names, or else the one of the settings. -/
def publish (b : Bridge) (client : SiteClient) (request : PublishRequest) : SiteCall Response :=
  let own := (b.siteSettings.siteId.filter (· ≠ "")).map Runes.ofString
  match (request.siteId.filter fun s : Runes => s ≠ "").or own with
  | none => .done (Response.faulty missingSite)
  | some siteId =>
    (client.publish siteId request.domainIds request.toSubdomain).map published

/-- The answer that names an error and nothing else. -/
def errorOnly (status : Nat) (error : Runes) : Response :=
  Response.json status (.object [("error", .text error)])

/-- Sends the caller to the page where access is asked for, with a state that is issued for it. -/
def authorize (b : Bridge) (client : SiteClient) : Bridge × Response :=
  if !SiteSettings.isGiven b.siteSettings.clientId then
    (b, errorOnly 400 SiteError.noClientId.message)
  else
    let state := b.setup.supply.authState (b.issued + 1)
    ({ b with auth := b.auth.issue b.clock state, issued := b.issued + 1 },
      match client.authorizationUrl state with
      | .ok url => Response.redirect url.text
      | .error e => Response.ofSiteError e)

/-- The answer to an exchange: whether a token was obtained, and never the token. -/
def exchanged : Except SiteError Json → Response
  | .ok (.object tokens) => Response.json 200 (.object
      [("success", .bool true), ("message", .text "OAuth completed successfully"),
        ("hasAccessToken", .bool ((tokens.lookup ↑"access_token").any Json.isTruthy))])
  | .ok tokens => Response.breakdown (.site (.notObject tokens))
  | .error e => serviceFailure [] e

/-- Ends an authorization: the state is used up, and the code is exchanged for tokens. -/
def callback (b : Bridge) (client : SiteClient) (request : Request) :
    Bridge × SiteCall Response :=
  match (request.parameter? "code").filter (· ≠ "") with
  | none => (b, .done (errorOnly 400 "Missing authorization code"))
  | some code =>
    -- The state is used up before the exchange, whatever comes of that.
    let (auth, good) := b.auth.consume b.clock (request.parameter? "state")
    ({ b with auth },
      if good then (client.exchangeCode code).map exchanged
      else .done (errorOnly 400 "Invalid or expired OAuth state"))

/-- What is said when an executor is current, but the time of the last connect is not set. -/
def missingTime : String := "'NoneType' object has no attribute 'isoformat'"

/-- What is reported about an executor: whether one is connected, since when, and when it was heard
of. -/
def executorReport (b : Bridge) : Except String Json :=
  let connection := (b.world.current?.bind fun c => b.world.ports[c]?).map Port.connection
  let time (known : Bool) : Json := if known then .text b.setup.supply.time else .null
  if connection.isSome && !b.world.registry.stamped then .error missingTime
  else .ok (.object [("version", .text version), ("websocket_connected", .bool connection.isSome),
    ("connected_at", time connection.isSome),
    ("last_heartbeat_at", time (connection.any Connection.heartbeatSeen)),
    ("http_port", .int b.setup.port), ("task_timeout", .number b.setup.timeout)])

/-- The report that all is well. -/
def healthy (b : Bridge) (api : ApiStatus) (executor : Json) : Json :=
  let settings := b.siteSettings
  .object [("status", .text "healthy"), ("timestamp", .text b.setup.supply.time),
    ("bridge", executor),
    ("webflow", .object [("api_status", .text api.name),
      ("oauth_configured", .bool settings.hasCredentials),
      ("site_id", Json.ofString? settings.siteId),
      ("locale_id", Json.ofString? settings.localeId)]),
    ("credentials", .object [("missing", .strings settings.missingCredentials),
      ("has_oauth", .bool settings.hasCredentials),
      ("has_site_token", .bool settings.hasSiteToken)])]

/-- The report that something is wrong. -/
def unhealthy (b : Bridge) (error : Runes) : Response :=
  Response.json 503 (.object [("status", .text "unhealthy"), ("error", .text error),
    ("timestamp", .text b.setup.supply.time)])

/-- Reports on the bridge, after a check of the site's API. -/
def health (b : Bridge) : SiteCall Response :=
  match b.hasRegistry, b.client with
  | true, some client => client.checkApi.map fun
    | .ok api => match b.executorReport with
      | .ok executor => Response.json 200 (b.healthy api executor)
      | .error reason => b.unhealthy reason
    | .error e => b.unhealthy e.message
  | _, _ => .done (b.unhealthy "Modules not initialized")

/-- Whether the bridge is ready: an executor and credentials of some kind are there. -/
def readiness (b : Bridge) : Readiness :=
  let connected := b.hasRegistry && b.world.registry.isAvailable
  let settings := b.siteSettings
  ⟨connected, settings.hasCredentials,
    connected && (settings.hasSiteToken || settings.hasCredentials)⟩

/-- Goes on with the client, if there is one. -/
def withClient (b : Bridge) (go : SiteClient → Bridge × Reaction) : Bridge × Reaction :=
  match b.client with
  | some client => go client
  | none => (b, .answer Response.unavailable)

/-- Takes a task for the relay as it was posted. -/
def takeTask (b : Bridge) (body : Body) : Reaction :=
  match body.check (.fail .missing) Task.read with
  | .error response => .answer response
  | .ok _ =>
    if !b.hasRelay then .answer Response.unavailable
    else match body with
      | .json (.object members) => .submit members
      | _ => .answer Response.unavailable

/-- What an endpoint does with a request. -/
def react (b : Bridge) (endpoint : Endpoint) (request : Request) : Bridge × Reaction :=
  match endpoint with
  | .publish => match Body.read request with
    | .error response => (b, .answer response)
    | .ok body => b.withClient fun client =>
      match body.check (.accepted PublishRequest.default) PublishRequest.read with
      | .error response => (b, .answer response)
      | .ok publishRequest => (b, .call (b.publish client publishRequest))
  | .authorize => b.withClient fun client =>
    let (b, response) := b.authorize client
    (b, .answer response)
  | .callback => b.withClient fun client =>
    let (b, call) := b.callback client request
    (b, .call call)
  | .task => match Body.read request with
    | .error response => (b, .answer response)
    | .ok body => (b, b.takeTask body)
  | .alive => (b, .answer (Response.json 200 (.object [("status", .text "ok")])))
  | .health => (b, .call b.health)
  | .status => (b, .answer (Response.json 200 b.readiness.toRecord.view.wire))

end Bridge

end DesignBridge
