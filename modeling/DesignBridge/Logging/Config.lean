import DesignBridge.Json.Basic
import DesignBridge.Settings.Bridge
import DesignBridge.Text.Directive.Fill

/-! # Logging and serving

The description of the loggers of the bridge, and of how its server is started.
-/

namespace DesignBridge

namespace Logging

open Text

def serverLoggers : List Runes := ["uvicorn", "uvicorn.error"]

/-- A logger that writes to one handler. -/
def logger (handler level : String) : Json :=
  .object [("handlers", .list [.text handler]), ("level", .text level),
    ("propagate", .bool false)]

/-- A handler that writes to standard output. -/
def handler (formatter : String) (filters : List String) : Json :=
  .object (("class", .text "logging.StreamHandler") :: ("formatter", .text formatter) ::
    ("stream", .text "ext://sys.stdout") ::
    if filters.isEmpty then [] else [("filters", .strings filters)])

/-- The description of the loggers. The level is that of the bridge's own loggers and of those that
are not named. -/
def config (level : String) : Json :=
  let level := upper level
  .object [("version", .int 1), ("disable_existing_loggers", .bool false),
    ("filters", .object [("health_filter", .object [("()", .text "HealthCheckFilter")])]),
    ("formatters", .object [
      ("default", .object
        [("format", .text "%(asctime)s - %(name)s - %(levelname)s - %(message)s")]),
      ("access", .object [("format", .text "%(message)s")])]),
    ("handlers", .object [("default", handler "default" []),
      ("access", handler "access" ["health_filter"])]),
    ("loggers", .object (("uvicorn.access", logger "access" "INFO") ::
      ("flowbridge", logger "default" level) ::
      serverLoggers.map fun name => (name, logger "default" "INFO"))),
    ("root", .object [("level", .text level), ("handlers", .list [.text "default"])])]

/-- What the server is started with. -/
def serverArguments (settings : BridgeSettings) : Json :=
  .object [("target", .text "flowbridge.main:app"), ("host", .text settings.host),
    ("port", .int settings.port), ("log_level", .text (lower settings.logLevel)),
    ("reload", .bool settings.debug), ("log_config", config settings.logLevel)]

end Logging

/-! ## Access lines

Health and status are asked for all the time. The lines that the access log would write about these
requests are dropped.
-/

namespace Access

/-- The logger whose lines may be dropped. -/
def logger : String := "uvicorn.access"

/-- The paths that are asked for all the time. -/
def polledPaths : List String := ["/health", "/healthz", "/status"]

/-- Whether a line looks like one about a polled path. -/
def isPolling (line : String) : Bool :=
  Text.contains line "GET" && polledPaths.any fun path => Text.contains line (path ++ " ")

/-- Whether a record is kept. -/
def keeps (name text : String) (arguments : List Json) : Except Text.DirectiveError Bool :=
  if name = logger then (Text.fill text arguments).map (!isPolling ·) else .ok true

end Access

end DesignBridge
