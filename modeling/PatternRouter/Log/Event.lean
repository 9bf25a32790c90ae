import PatternRouter.Http.Status
import PatternRouter.Identity

/-!
# Log events

The events of the program itself, as data; what the libraries under it log for themselves is not
among them. An event has a level, a target, a message and fields. The target names the part of the
program that tells of the event; levels and targets decide together whether an event is written.
-/

namespace PatternRouter.Log

/-- How much an event matters, the least first. -/
inductive Level where
  | trace
  | debug
  | info
  | warn
  | error
deriving DecidableEq, Repr

/-- The name of a level. -/
def Level.name : Level → String
  | .trace => "TRACE"
  | .debug => "DEBUG"
  | .info => "INFO"
  | .warn => "WARN"
  | .error => "ERROR"

/-- The rank of a level: the more an event matters, the lower. -/
def Level.rank : Level → Nat
  | .error => 1
  | .warn => 2
  | .info => 3
  | .debug => 4
  | .trace => 5

/-- The value of a field. -/
inductive FieldValue where
  | text (text : String)
  | number (number : Nat)
  /-- Yes or no. -/
  | flag (flag : Bool)
deriving DecidableEq, Repr

/-- Something that happened. -/
inductive Event where
  /-- The program starts. -/
  | starting
  /-- The settings are known. -/
  | settingsLoaded (bindAddress : String) (requestSeconds : UInt64) (identityEnabled : Bool)
  /-- A route table is complete. -/
  | tableCompiled (routes : Nat)
  /-- Metrics are offered. -/
  | metricsListening (address : String)
  /-- Metrics cannot be offered. -/
  | metricsFailed (address : String)
  /-- Metrics cannot be offered, because there is no such address. -/
  | metricsAddressInvalid (address : String)
  /-- The program has its socket. -/
  | listening (address : String)
  /-- The server takes requests. -/
  | serverStarting (address : String)
  /-- The program was told to stop. -/
  | shutdownSignal
  /-- The server takes no more requests. -/
  | serverStopped
  /-- The program ends. -/
  | shutdownComplete
  | routeMatched (path pattern : String)
  /-- A credential gives no identity. -/
  | identityFailed (path pattern : String) (error : IdentityError)
  /-- No route matches a path. -/
  | noRoute (path : String)
  /-- A request was handled. -/
  | requestHandled (requestId path : String) (status : Http.Status)
  /-- A request was for a path that no route matches. -/
  | requestUnmatched (requestId path : String)
  /-- A request failed for its credential. -/
  | requestFailed (requestId path : String) (error : IdentityError)
deriving DecidableEq, Repr

namespace Event

/-- How much an event matters. -/
def level : Event → Level
  | .routeMatched .. | .noRoute .. | .requestHandled .. => .debug
  | .requestUnmatched .. => .warn
  | .identityFailed .. | .requestFailed .. | .metricsFailed .. | .metricsAddressInvalid .. => .error
  | _ => .info

/-- The part of the program that tells of an event. -/
def target : Event → String
  | .starting | .settingsLoaded .. | .metricsAddressInvalid .. | .listening ..
  | .shutdownComplete => "capsule_router"
  | .tableCompiled .. | .routeMatched .. | .identityFailed .. | .noRoute .. =>
    "capsule_router::routing::router"
  | .metricsListening .. | .metricsFailed .. => "capsule_router::observability::metrics"
  | .serverStarting .. | .shutdownSignal | .serverStopped | .requestHandled ..
  | .requestUnmatched .. | .requestFailed .. => "capsule_router::http::server"

/-- What is said of an event. -/
def message : Event → String
  | .starting => "capsule-router v0.1.0 starting"
  | .settingsLoaded .. => "Configuration loaded"
  | .tableCompiled .. => "Route table compiled"
  | .metricsListening .. => "Metrics exporter listening"
  | .metricsFailed .. => "Failed to install metrics exporter"
  | .metricsAddressInvalid .. => "Failed to parse metrics address"
  | .listening .. => "Listening for connections"
  | .serverStarting .. => "HTTP server starting"
  | .shutdownSignal => "Shutdown signal received"
  | .serverStopped => "HTTP server stopped"
  | .shutdownComplete => "Shutdown complete"
  | .routeMatched .. => "Route matched"
  | .identityFailed .. => "Failed to resolve client identity"
  | .noRoute .. | .requestUnmatched .. => "No route matched"
  | .requestHandled .. => "Request handled"
  | .requestFailed .. => "Request failed"

/-- The fields of an event, in their order. -/
def fields : Event → List (String × FieldValue)
  | .starting | .shutdownSignal | .serverStopped | .shutdownComplete => []
  | .settingsLoaded bindAddress requestSeconds identityEnabled =>
    [("bind_address", .text bindAddress), ("request_timeout_secs", .number requestSeconds.toNat),
     ("identity_enabled", .flag identityEnabled)]
  | .tableCompiled routes => [("routes", .number routes)]
  | .metricsListening address | .metricsFailed address | .listening address
  | .serverStarting address => [("address", .text address)]
  | .metricsAddressInvalid address => [("metrics_address", .text address)]
  | .routeMatched path pattern => [("path", .text path), ("pattern", .text pattern)]
  | .identityFailed path pattern error =>
    [("path", .text path), ("pattern", .text pattern), ("error", .text error.message)]
  | .noRoute path => [("path", .text path)]
  | .requestHandled requestId path status =>
    [("request_id", .text requestId), ("path", .text path), ("status", .text status.text)]
  | .requestUnmatched requestId path => [("request_id", .text requestId), ("path", .text path)]
  | .requestFailed requestId path error =>
    [("request_id", .text requestId), ("path", .text path), ("error", .text error.message)]

end Event

end PatternRouter.Log
