import DesignBridge.Server.Message
import DesignBridge.Text.Case

/-! # Bodies

The body of a request is JSON if its content type says so. Whether it is JSON at all is settled
first; what it has to hold is checked later, by the endpoint. An absent body and the value null
count as the same.
-/

namespace DesignBridge

/-- What a request brings as its body. -/
inductive Body where
  | absent
  | json (value : Json)
  /-- The content type is not one of JSON; the bytes count as they are. -/
  | other (bytes : List UInt8)

namespace Body

/-- Whether a content type, up to its parameters, is one of JSON. -/
def isJsonType (contentType : String) : Bool :=
  let essence := Text.lower (Text.trim (String.ofList (contentType.toList.takeWhile (· ≠ ';'))))
  match Text.split '/' essence with
  | [main, sub] => main == "application" &&
      (sub == "json" || "+json".toList.isSuffixOf sub.toList)
  | _ => false

/-- The answer to a body that is not JSON where it has to be. -/
def unreadable : Json.BodyError → Response
  | .json (.fault kind _ _ position) =>
    Response.invalid [⟨[.key "body", .index position], .notJson kind.message⟩] (.object [])
  | _ => Response.detail 400 "There was an error parsing the body"

def read (request : Request) : Except Response Body :=
  if request.body = [] then .ok absent
  else if (request.header? "content-type").any isJsonType then
    match Json.readBody? request.body with
    | .ok value => .ok (json value)
    | .error e => .error (unreadable e)
  else .ok (other request.body)

/-- The answer to issues with a body. Bytes are shown as the text that they are, if they are one. -/
def refuse (issues : List Issue) : Body → Response
  | absent => Response.invalid issues .null
  | json value => Response.invalid issues value
  | other bytes => match Utf8.decodeStrict bytes with
    | .ok s => Response.invalid issues (.text s)
    | .error fault => Response.faulty fault.message

/-- Checks what a body holds; what an absent one means is given. -/
def check {α : Type} (whenAbsent : Checked α) (read : Json → Checked α) (body : Body) :
    Except Response α :=
  let checked := match body with
    | absent => whenAbsent
    | json .null => whenAbsent
    | json value => (read value).asBody
    | other _ => .fail .fieldsExpected
  match checked.under (.key "body") with
  | .accepted a => .ok a
  | .rejected issues => .error (refuse issues body)

end Body

end DesignBridge
