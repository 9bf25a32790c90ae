import PatternRouter.Settings
import PatternRouter.Toml.Document

/-!
# Settings in documents

A document overlays the default settings: what it does not say keeps its default, and names that are
no settings are passed over. The settings of a group stand in a table. They may also be the items of
an array, in the order of the group; a date or time in the place of a group says nothing.

* `Settings.ofEntries?` reads the settings of a document. There are none if a setting has a value of
  the wrong kind.
-/

namespace PatternRouter

/-- What a document says of a group of settings. -/
inductive SettingsGroup where
  /-- Settings by their names. -/
  | named (entries : Toml.Entries)
  /-- Settings in their order. -/
  | listed (items : List Toml.Node)

namespace SettingsGroup

/-- What a node says in the place of a group. -/
def ofNode? : Toml.Node → Option SettingsGroup
  | .table _ entries => some (.named entries)
  | .array items => some (.listed items)
  | .tables elements => some (.listed (elements.map (.table .header ·)))
  -- A date or time is a group without settings.
  | .dateTime _ => some (.named [])
  | _ => none

/-- What stands for the setting with a place in the order and a name. -/
def node? (group : SettingsGroup) (place : Nat) (name : String) : Option Toml.Node :=
  match group with
  | .named entries => entries.get? name
  | .listed items => items[place]?

end SettingsGroup

namespace Toml.Node

/-- The text that a node is. -/
def string? : Node → Option String
  | .string content => some content
  | _ => none

/-- The truth value that a node is. -/
def boolean? : Node → Option Bool
  | .boolean value => some value
  | _ => none

/-- The number of at most 64 bits and without a sign that a node is. -/
def word? : Node → Option UInt64
  | .integer value =>
    if 0 ≤ value ∧ value.toNat < UInt64.size then some (UInt64.ofNat value.toNat) else none
  | _ => none

/-- Whether a node holds nothing. -/
def isVoid : Node → Bool
  | .table _ entries => entries.isEmpty
  | .array items => items.isEmpty
  | .tables elements => elements.isEmpty
  | _ => false

end Toml.Node

/-- The form of log lines with a name. -/
def LogFormat.ofName? : String → Option LogFormat
  | "pretty" => some .pretty
  | "json" => some .json
  | _ => none

/-- The form of log lines that a node names: with a text, or with a table that binds the name alone
and to nothing. -/
def LogFormat.ofNode? : Toml.Node → Option LogFormat
  | .string name => ofName? name
  | .table _ [(name, node)] => if node.isVoid then ofName? name else none
  | _ => none

/-- What is read of a node, or the default where there is no node. -/
def readOr {α : Type} (default : α) (read? : Toml.Node → Option α) : Option Toml.Node → Option α
  | some node => read? node
  | none => some default

/-- The settings of the listener. -/
def ListenerSettings.ofNode? (node : Toml.Node) : Option ListenerSettings := do
  let default : ListenerSettings := {}
  let group ← SettingsGroup.ofNode? node
  return {
    bindAddress :=
      ← readOr default.bindAddress Toml.Node.string? (group.node? 0 "bind_address") }

/-- The settings of times. -/
def TimeoutSettings.ofNode? (node : Toml.Node) : Option TimeoutSettings := do
  let default : TimeoutSettings := {}
  let group ← SettingsGroup.ofNode? node
  return {
    requestSeconds :=
      ← readOr default.requestSeconds Toml.Node.word? (group.node? 0 "request_secs") }

/-- The settings of identification. -/
def IdentitySettings.ofNode? (node : Toml.Node) : Option IdentitySettings := do
  let default : IdentitySettings := {}
  let group ← SettingsGroup.ofNode? node
  return {
    enabled := ← readOr default.enabled Toml.Node.boolean? (group.node? 0 "enabled")
    header := ← readOr default.header Toml.Node.string? (group.node? 1 "header") }

/-- The settings of what the server tells about itself. -/
def ObservabilitySettings.ofNode? (node : Toml.Node) : Option ObservabilitySettings := do
  let default : ObservabilitySettings := {}
  let group ← SettingsGroup.ofNode? node
  return {
    logLevel := ← readOr default.logLevel Toml.Node.string? (group.node? 0 "log_level")
    logFormat := ← readOr default.logFormat LogFormat.ofNode? (group.node? 1 "log_format")
    metricsEnabled :=
      ← readOr default.metricsEnabled Toml.Node.boolean? (group.node? 2 "metrics_enabled")
    metricsAddress :=
      ← readOr default.metricsAddress Toml.Node.string? (group.node? 3 "metrics_address") }

/-- The settings of a document. -/
def Settings.ofEntries? (entries : Toml.Entries) : Option Settings := do
  return {
    listener := ← readOr {} ListenerSettings.ofNode? (entries.get? "listener")
    timeouts := ← readOr {} TimeoutSettings.ofNode? (entries.get? "timeouts")
    identity := ← readOr {} IdentitySettings.ofNode? (entries.get? "identity")
    observability := ← readOr {} ObservabilitySettings.ofNode? (entries.get? "observability") }

end PatternRouter
