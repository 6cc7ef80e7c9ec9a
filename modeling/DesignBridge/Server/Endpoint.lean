import DesignBridge.Server.Message

/-! # Endpoints

Every endpoint has one path and one method. A path with slashes at its end leads to the endpoint
without them by a redirection, whatever the method.
-/

namespace DesignBridge

/-- What can be called over HTTP. -/
inductive Endpoint where
  | publish
  | authorize
  | callback
  | task
  | alive
  | health
  | status
  deriving DecidableEq, Repr

namespace Endpoint

def all : List Endpoint := [publish, authorize, callback, task, alive, health, status]

def path : Endpoint → String
  | publish => "/publish"
  | authorize => "/auth/webflow"
  | callback => "/auth/callback"
  | task => "/task"
  | alive => "/healthz"
  | health => "/health"
  | status => "/status"

def method : Endpoint → String
  | publish => "POST"
  | task => "POST"
  | _ => "GET"

/-- A path without the line break at its end, which makes no difference. -/
def withoutBreak (path : String) : String :=
  match path.toList.reverse with
  | '\n' :: rest => String.ofList rest.reverse
  | _ => path

def ofPath? (s : String) : Option Endpoint :=
  all.find? (·.path == withoutBreak s)

/-- The answer to a call with another method. -/
def wrongMethod (endpoint : Endpoint) : Response :=
  (Response.detail 405 "Method Not Allowed").withHeader "allow" endpoint.method

/-- The answer to a path that leads nowhere. -/
def notFound : Response := Response.detail 404 "Not Found"

/-- The host that a request was sent to, as far as it names one. -/
def hostOf (request : Request) (fallback : String) : String :=
  ((request.header? "host").filter Host.isAuthority).getD fallback

/-- A path without the slashes at its end. -/
def withoutSlashes (path : String) : String :=
  String.ofList (path.toList.reverse.dropWhile (· = '/')).reverse

/-- The answer to a path that no endpoint has. -/
def elsewhere (host : String) (request : Request) : Response :=
  let path := withoutSlashes request.path
  if path ≠ request.path ∧ (ofPath? path).isSome then
    Response.redirect ("http://" ++ hostOf request host ++ path ++
      (if request.query = "" then "" else "?" ++ request.query))
  else notFound

/-- The endpoint that a request is for, or the answer if it is for none. -/
def find (host : String) (request : Request) : Except Response Endpoint :=
  match ofPath? request.path with
  | some endpoint =>
    if request.method = endpoint.method then .ok endpoint else .error endpoint.wrongMethod
  | none => .error (elsewhere host request)

end Endpoint

end DesignBridge
