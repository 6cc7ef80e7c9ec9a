import DesignBridge.Server.Message

/-! # Callers in browsers

A browser names the origin of a page that calls the bridge, and asks beforehand whether a call is
allowed. An asterisk among the allowed origins stands for all of them; then the answer names no
origin.
-/

namespace DesignBridge.Cors

/-- The header that tells which origin may see an answer. -/
def allowOrigin : String := "access-control-allow-origin"

def allowsAll (origins : List String) : Bool :=
  origins.contains "*"

/-- The methods that may be called. -/
def methods : List String := ["DELETE", "GET", "HEAD", "OPTIONS", "PATCH", "POST", "PUT"]

/-- The origin that an answer names for a caller. -/
def named? (origins : List String) (origin : String) : Option String :=
  if allowsAll origins then some "*"
  else if origins.contains origin then some origin
  else none

/-- Sets the header for an origin, if there is one. -/
def setOrigin (response : Response) : Option String → Response
  | some origin => response.withHeader allowOrigin origin
  | none => response

/-- What is not allowed about a call that a browser asks for. -/
def objections (origins : List String) (request : Request) (origin method : String) :
    List String :=
  (if (named? origins origin).isSome then [] else ["origin"]) ++
    (if methods.contains method then [] else ["method"]) ++
    (if (request.header? "access-control-request-private-network").isSome then
      ["private-network"] else [])

/-- The answer to a question beforehand, if a request is one. -/
def preflight? (origins : List String) (request : Request) : Option Response :=
  match request.header? "origin", request.header? "access-control-request-method" with
  | some origin, some method =>
    if request.method = "OPTIONS" then
      let response := match objections origins request origin method with
        | [] => Response.text 200 "OK"
        | list => Response.text 400 ("Disallowed CORS " ++ Text.joinWith ", " list)
      some (setOrigin response (named? origins origin))
    else none
  | _, _ => none

/-- Lets a caller in a browser see an answer. An answer of an endpoint that broke down stays as it
is. -/
def share (origins : List String) (request : Request) (response : Response) : Response :=
  match request.header? "origin", response.cause with
  | some origin, none =>
    setOrigin response (named? origins origin)
  | _, _ => response

end DesignBridge.Cors
