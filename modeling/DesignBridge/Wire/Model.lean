import DesignBridge.Task.Basic
import DesignBridge.Task.Report

/-! # Models

The records that travel between the parties, by name. Reading a value as a model gives the record
that its typed form shows.
-/

namespace DesignBridge

/-- A request to publish the site. -/
structure PublishRequest where
  siteId : Option Runes
  domainIds : List Runes
  toSubdomain : Bool
  deriving DecidableEq

namespace PublishRequest

open Validation

def kind : String := "PublishRequest"

/-- The request with nothing given. -/
def default : PublishRequest := ⟨none, [], true⟩

def readFields (members : Json.Members) : Checked PublishRequest :=
  mk <$> optionalField members ⟨"siteId", "site_id"⟩ readText
    <*> fieldOr members ⟨"domainIds", "domain_ids"⟩ [] (readList readText)
    <*> fieldOr members ⟨"publishToWebflowSubdomain", "publish_to_webflow_subdomain"⟩ true
      readBoolean

def read : Json → Checked PublishRequest :=
  readRecord kind readFields

def toRecord (request : PublishRequest) : Record :=
  ⟨kind, false,
    [(⟨"siteId", "site_id"⟩, View.text? request.siteId),
      (⟨"domainIds", "domain_ids"⟩, .value (.list (request.domainIds.map .text))),
      (⟨"publishToWebflowSubdomain", "publish_to_webflow_subdomain"⟩,
        .value (.bool request.toSubdomain))]⟩

end PublishRequest

/-- A summary of readiness. -/
structure Readiness where
  connected : Bool
  configured : Bool
  ready : Bool
  deriving DecidableEq

namespace Readiness

open Validation

def kind : String := "StatusResponse"

def connectionWords : List (String × Bool) := [("connected", true), ("disconnected", false)]

def credentialWords : List (String × Bool) := [("configured", true), ("missing", false)]

def readFields (members : Json.Members) : Checked Readiness :=
  mk <$> requiredField members "websocket" (readChoice connectionWords)
    <*> requiredField members "credentials" (readChoice credentialWords)
    <*> requiredField members "ready" readBoolean

def toRecord (readiness : Readiness) : Record :=
  ⟨kind, false,
    [("websocket", .value (.text (if readiness.connected then "connected" else "disconnected"))),
      ("credentials", .value (.text (if readiness.configured then "configured" else "missing"))),
      ("ready", .value (.bool readiness.ready))]⟩

end Readiness

/-- A reply that only says what went wrong. -/
structure ErrorReply where
  ok : Bool
  error : Runes
  deriving DecidableEq

namespace ErrorReply

open Validation

def kind : String := "ErrorResponse"

def readFields (members : Json.Members) : Checked ErrorReply :=
  mk <$> fieldOr members "ok" false readBoolean <*> requiredField members "error" readText

def toRecord (reply : ErrorReply) : Record :=
  ⟨kind, false, [("ok", .value (.bool reply.ok)), ("error", .value (.text reply.error))]⟩

end ErrorReply

/-- The models. -/
inductive Model where
  | node
  | reference
  | style
  | asset
  | operationOf (kind : OperationKind)
  | operation
  | task
  | publishRequest
  | operationResult
  | reply
  | readiness
  | errorReply
  deriving DecidableEq, Repr

namespace Model

def name : Model → String
  | node => Node.kind
  | reference => Reference.kind
  | style => StyleSpec.kind
  | asset => AssetRef.kind
  | operationOf kind => kind.record
  | operation => "Operation"
  | task => Task.kind
  | publishRequest => PublishRequest.kind
  | operationResult => OperationResult.kind
  | reply => Reply.kind
  | readiness => Readiness.kind
  | errorReply => ErrorReply.kind

def all : List Model :=
  [node, reference, style, asset] ++ OperationKind.all.map operationOf ++
    [operation, task, publishRequest, operationResult, reply, readiness, errorReply]

def ofName? (s : String) : Option Model :=
  all.find? (·.name == s)

def read (value : Json) : Model → Checked Record
  | node => (fun n => ⟨Node.kind, true, n.fields⟩) <$> Node.read value
  | reference => (fun r => ⟨Reference.kind, true, r.fields⟩) <$> Reference.read value
  | style => (fun s => ⟨StyleSpec.kind, true, s.fields⟩) <$> StyleSpec.read value
  | asset => (fun a => ⟨AssetRef.kind, true, a.fields⟩) <$> AssetRef.read value
  | operationOf kind => Operation.toRecord <$> Operation.readAs kind value
  | operation => Operation.toRecord <$> Operation.read value
  | task => Task.toRecord <$> Task.read value
  | publishRequest => PublishRequest.toRecord <$> PublishRequest.read value
  | operationResult => OperationResult.toRecord <$> OperationResult.read value
  | reply => Reply.toRecord <$> Reply.read value
  | readiness =>
    Readiness.toRecord <$> Validation.readRecord Readiness.kind Readiness.readFields value
  | errorReply =>
    ErrorReply.toRecord <$> Validation.readRecord ErrorReply.kind ErrorReply.readFields value

end Model

end DesignBridge
