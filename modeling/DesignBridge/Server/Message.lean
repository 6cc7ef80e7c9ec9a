import DesignBridge.Relay.Submission
import DesignBridge.Site.Client
import DesignBridge.Validation.Checked

/-! # Requests and responses

What the bridge is asked over HTTP and what it answers. An answer with a JSON value takes finite
numbers only, and no halves of surrogate pairs; a value that cannot be written makes the request
count as faulty. An endpoint that breaks down leaves an answer without details, and the cause is
kept beside it.
-/

namespace DesignBridge

/-- A request. The names of headers are in lower case. -/
structure Request where
  method : String
  path : String
  query : String
  headers : Entries String String
  body : List UInt8
  deriving DecidableEq, Repr

namespace Request

def header? (request : Request) (name : String) : Option String :=
  request.headers.lookup name

/-- The value of a parameter in the query. Outside escapes, every byte of the query counts as a
character. -/
def parameter? (request : Request) (name : String) : Option String :=
  let cs := (Utf8.encode request.query.toList).map fun b => Char.ofNat b.toNat
  Form.value? (Form.decode (String.ofList cs)) name

end Request

/-- What an answer holds. -/
inductive Content where
  | json (value : Json)
  | text (s : String)

/-- Why an endpoint breaks down. -/
inductive Breakdown where
  | site (error : SiteError)
  | relay (outcome : Outcome)

/-- An answer. -/
structure Response where
  status : Nat
  headers : Entries String String
  content : Content
  cause : Option Breakdown

namespace Json

/-- Whether a name is left out of a value that an answer takes over. -/
def isLeftOut (name : Runes) : Bool :=
  (Runes.ofString "_sa").list.isPrefixOf name.list

mutual

/-- A value as an answer takes it over. -/
def kept : Json → Json
  | .list items => .list (keptItems items)
  | .object members => .object (keptMembers members)
  | value => value

def keptItems : List Json → List Json
  | [] => []
  | x :: xs => kept x :: keptItems xs

def keptMembers : Members → Members
  | [] => []
  | (name, x) :: rest =>
    if isLeftOut name then keptMembers rest else (name, kept x) :: keptMembers rest

end

end Json

namespace Response

/-- The answer to a request that is at fault. -/
def faulty (message : Runes) : Response :=
  ⟨400, [], .json (.object [("ok", .bool false), ("error", .text message)]), none⟩

def json (status : Nat) (value : Json) : Response :=
  match value.encodingFault? with
  | none => ⟨status, [], .json value, none⟩
  | some fault => faulty fault.message

/-- An answer with plain text. -/
def text (status : Nat) (s : String) : Response :=
  ⟨status, [], .text s, none⟩

/-- An answer that only says in a few words what is the matter. -/
def detail (status : Nat) (s : String) : Response :=
  json status (.object [("detail", .text s)])

/-- The answer when a part of the bridge is not there. -/
def unavailable : Response := detail 503 "Service not initialized"

/-- The answer of an endpoint that breaks down. -/
def breakdown (cause : Breakdown) : Response :=
  ⟨500, [], .text "Internal Server Error", some cause⟩

def withHeader (response : Response) (name value : String) : Response :=
  { response with headers := response.headers.put name value }

/-- Whether a character stands for itself in the address of a redirection. -/
def isLocationChar (c : Char) : Bool :=
  Percent.isUnreserved c || ":/%#?=@[]!$&'()*+,;".toList.contains c

/-- Sends the caller to another address. -/
def redirect (address : String) : Response :=
  (text 307 "").withHeader "location"
    (String.ofList (Percent.encode isLocationChar address.toList))

/-- The answer to a body with issues. The values that they are about are part of it. -/
def invalid (issues : List Issue) (body : Json) : Response :=
  json 422 (.object [("detail", .list (issues.map fun issue =>
    issue.detail (body.follow (issue.path.drop 1)).kept))])

/-- The answer to a failure of the site's API that an endpoint does not expect: the request is at
fault if it cannot be put together or leads nowhere, otherwise the endpoint breaks down. -/
def ofSiteError (error : SiteError) : Response :=
  match error with
  | .header .. => faulty error.message
  | .unencodable _ => faulty error.message
  | .untyped _ => faulty error.message
  | .noClientId => faulty error.message
  | _ => breakdown (.site error)

end Response

end DesignBridge
