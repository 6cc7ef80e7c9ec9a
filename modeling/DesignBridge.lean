import DesignBridge.Design.Label
import DesignBridge.Design.Node
import DesignBridge.Design.Operation
import DesignBridge.Design.Reference
import DesignBridge.Document.Basic
import DesignBridge.Document.Element
import DesignBridge.Document.Execute
import DesignBridge.Document.Find
import DesignBridge.Document.Sketch
import DesignBridge.Document.Snapshot
import DesignBridge.Json.Basic
import DesignBridge.Json.Encoded
import DesignBridge.Json.Reader
import DesignBridge.Json.Writer
import DesignBridge.Logging.Config
import DesignBridge.Main
import DesignBridge.Number.Basic
import DesignBridge.Number.Binary
import DesignBridge.Number.Numeral
import DesignBridge.Number.Rounded
import DesignBridge.Number.Shortest
import DesignBridge.Proofs.Design.Joining
import DesignBridge.Proofs.Design.Outline
import DesignBridge.Proofs.Design.WireForm
import DesignBridge.Proofs.Document.Asking
import DesignBridge.Proofs.Document.Batch
import DesignBridge.Proofs.Document.Building
import DesignBridge.Proofs.Document.Calls
import DesignBridge.Proofs.Document.Commuting
import DesignBridge.Proofs.Document.Dressing
import DesignBridge.Proofs.Document.Effect
import DesignBridge.Proofs.Document.Failure
import DesignBridge.Proofs.Document.Frame
import DesignBridge.Proofs.Document.Identifying
import DesignBridge.Proofs.Document.Inheritance
import DesignBridge.Proofs.Document.Instruction
import DesignBridge.Proofs.Document.Order
import DesignBridge.Proofs.Document.Path
import DesignBridge.Proofs.Document.Placing
import DesignBridge.Proofs.Document.Reachable
import DesignBridge.Proofs.Document.Refusal
import DesignBridge.Proofs.Document.Retry
import DesignBridge.Proofs.Document.Revision
import DesignBridge.Proofs.Document.Shape
import DesignBridge.Proofs.Document.Spacing
import DesignBridge.Proofs.Document.Styling
import DesignBridge.Proofs.Document.Target
import DesignBridge.Proofs.Document.Tree
import DesignBridge.Proofs.Json.Body
import DesignBridge.Proofs.Json.Lasting
import DesignBridge.Proofs.Json.Number
import DesignBridge.Proofs.Json.Outline
import DesignBridge.Proofs.Json.RoundTrip
import DesignBridge.Proofs.Json.Source
import DesignBridge.Proofs.Json.Text
import DesignBridge.Proofs.Logging.Polling
import DesignBridge.Proofs.Number.Form
import DesignBridge.Proofs.Number.Order
import DesignBridge.Proofs.Number.Parts
import DesignBridge.Proofs.Number.Rounding
import DesignBridge.Proofs.Relay.Clock
import DesignBridge.Proofs.Relay.Correlation
import DesignBridge.Proofs.Relay.Current
import DesignBridge.Proofs.Relay.Deadline
import DesignBridge.Proofs.Relay.Delivery
import DesignBridge.Proofs.Relay.Ending
import DesignBridge.Proofs.Relay.Exchange
import DesignBridge.Proofs.Relay.Exclusion
import DesignBridge.Proofs.Relay.Habits
import DesignBridge.Proofs.Relay.Handing
import DesignBridge.Proofs.Relay.Hearing
import DesignBridge.Proofs.Relay.Line
import DesignBridge.Proofs.Relay.Move
import DesignBridge.Proofs.Relay.Outside
import DesignBridge.Proofs.Relay.Port
import DesignBridge.Proofs.Relay.Registering
import DesignBridge.Proofs.Relay.Sending
import DesignBridge.Proofs.Relay.Standing
import DesignBridge.Proofs.Relay.Step
import DesignBridge.Proofs.Relay.Underway
import DesignBridge.Proofs.Relay.Workload
import DesignBridge.Proofs.Server.Answering
import DesignBridge.Proofs.Server.Executor
import DesignBridge.Proofs.Server.Granting
import DesignBridge.Proofs.Server.Health
import DesignBridge.Proofs.Server.Ledger
import DesignBridge.Proofs.Server.Posting
import DesignBridge.Proofs.Server.Publishing
import DesignBridge.Proofs.Server.Tokens
import DesignBridge.Proofs.Server.Turn
import DesignBridge.Proofs.Server.Upstream
import DesignBridge.Proofs.Session.Budget
import DesignBridge.Proofs.Session.Growth
import DesignBridge.Proofs.Session.Label
import DesignBridge.Proofs.Session.Pauses
import DesignBridge.Proofs.Session.RoundTrip
import DesignBridge.Proofs.Session.Rounds
import DesignBridge.Proofs.Session.Service
import DesignBridge.Proofs.Session.Serving
import DesignBridge.Proofs.Session.Tasks
import DesignBridge.Proofs.Settings.Range
import DesignBridge.Proofs.Settings.Remote
import DesignBridge.Proofs.Site.Consent
import DesignBridge.Proofs.Site.Publication
import DesignBridge.Proofs.Site.Sending
import DesignBridge.Proofs.Site.States
import DesignBridge.Proofs.Task.Agreement
import DesignBridge.Proofs.Task.Reading
import DesignBridge.Proofs.Task.WireForm
import DesignBridge.Proofs.Text.Filling
import DesignBridge.Proofs.Text.Halves
import DesignBridge.Proofs.Text.Occurrence
import DesignBridge.Proofs.Text.Pieces
import DesignBridge.Proofs.Validation.Accepted
import DesignBridge.Proofs.Web.Form
import DesignBridge.Proofs.Web.Path
import DesignBridge.Proofs.Web.Percent
import DesignBridge.Proofs.Web.Url
import DesignBridge.Proofs.Web.Utf8
import DesignBridge.Proofs.Wire.Fields
import DesignBridge.Relay.Action
import DesignBridge.Relay.Connection
import DesignBridge.Relay.Gate
import DesignBridge.Relay.Patience
import DesignBridge.Relay.Registry
import DesignBridge.Relay.Run
import DesignBridge.Relay.Submission
import DesignBridge.Relay.World
import DesignBridge.Server.Action
import DesignBridge.Server.Body
import DesignBridge.Server.Bridge
import DesignBridge.Server.Cors
import DesignBridge.Server.Endpoint
import DesignBridge.Server.Handle
import DesignBridge.Server.Message
import DesignBridge.Server.Run
import DesignBridge.Session.Answer
import DesignBridge.Session.Backoff
import DesignBridge.Session.Run
import DesignBridge.Settings.Bridge
import DesignBridge.Settings.Executor
import DesignBridge.Settings.Site
import DesignBridge.Site.Client
import DesignBridge.Site.States
import DesignBridge.Table
import DesignBridge.Task.Basic
import DesignBridge.Task.Report
import DesignBridge.Text.Blank
import DesignBridge.Text.Case
import DesignBridge.Text.CaseTable
import DesignBridge.Text.Digit
import DesignBridge.Text.Directive
import DesignBridge.Text.Directive.Fill
import DesignBridge.Text.Directive.Reader
import DesignBridge.Text.Hex
import DesignBridge.Text.Layout
import DesignBridge.Text.Printable
import DesignBridge.Text.Quoted
import DesignBridge.Text.Rune
import DesignBridge.Validation.Checked
import DesignBridge.Validation.Field
import DesignBridge.Validation.Issue
import DesignBridge.Web.Base64
import DesignBridge.Web.Form
import DesignBridge.Web.Host
import DesignBridge.Web.Label
import DesignBridge.Web.Label.Character
import DesignBridge.Web.Label.Composition
import DesignBridge.Web.Label.Context
import DesignBridge.Web.Label.Direction
import DesignBridge.Web.Label.Mark
import DesignBridge.Web.Percent
import DesignBridge.Web.Punycode
import DesignBridge.Web.Url
import DesignBridge.Web.Utf8
import DesignBridge.Wire.Model
import DesignBridge.Wire.Record
