/-!
# Settings

What can be set about a server, in four sections. Every setting has a default.
-/

namespace PatternRouter

/-- The forms of log lines. -/
inductive LogFormat where
  /-- Lines to be read by people. -/
  | pretty
  /-- One JSON object a line. -/
  | json
deriving DecidableEq, Repr

/-- Where the server listens. -/
structure ListenerSettings where
  /-- The address and the port. -/
  bindAddress : String := "127.0.0.1:8080"
deriving DecidableEq, Repr

/-- How long things may take. -/
structure TimeoutSettings where
  /-- The seconds that a request may take. -/
  requestSeconds : UInt64 := 30
deriving DecidableEq, Repr

/-- How clients are identified. -/
structure IdentitySettings where
  /-- Whether they are. -/
  enabled : Bool := true
  /-- The name of the header field that holds a client's certificate, percent-encoded. -/
  header : String := "x-client-cert"
deriving DecidableEq, Repr

/-- What the server tells about itself. -/
structure ObservabilitySettings where
  /-- The directives that select the log events to be written. -/
  logLevel : String := "capsule_router=info,tower_http=info"
  /-- The form of log lines. -/
  logFormat : LogFormat := .pretty
  /-- Whether metrics are offered. -/
  metricsEnabled : Bool := false
  /-- The address and the port where metrics are offered. -/
  metricsAddress : String := "127.0.0.1:9090"
deriving DecidableEq, Repr

/-- The settings of a server. -/
structure Settings where
  /-- Where the server listens. -/
  listener : ListenerSettings := {}
  /-- How long things may take. -/
  timeouts : TimeoutSettings := {}
  /-- How clients are identified. -/
  identity : IdentitySettings := {}
  /-- What the server tells about itself. -/
  observability : ObservabilitySettings := {}
deriving DecidableEq, Repr

end PatternRouter
