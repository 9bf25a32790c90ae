import PatternRouter.Http.Header
import PatternRouter.Net.SocketAddress
import PatternRouter.Settings

/-!
# Validation of settings

The listener needs a socket address and requests need time. Only if clients are identified is the
name of the header field looked at, and only if metrics are offered is their address. All that is
wrong is reported, in the order of the sections.

* `validate_eq_nil_iff`: nothing is reported exactly of settings that fulfil all four conditions.
-/

namespace PatternRouter

/-- Something wrong with settings. -/
inductive SettingsFault where
  /-- The address of the listener is no socket address. -/
  | bindAddress (address : String)
  /-- A request may take no time. -/
  | zeroRequestTimeout
  /-- The name of the field that holds credentials is no name of a field. -/
  | identityHeader (name : String)
  /-- The address for metrics is no socket address. -/
  | metricsAddress (address : String)
deriving DecidableEq, Repr

/-- What is said of a fault. -/
def SettingsFault.message : SettingsFault → String
  | .bindAddress address => "listener.bind_address `" ++ address ++ "` is not a socket address"
  | .zeroRequestTimeout => "timeouts.request_secs must be greater than zero"
  | .identityHeader name => "identity.header `" ++ name ++ "` is not a valid header name"
  | .metricsAddress address =>
    "observability.metrics_address `" ++ address ++ "` is not a socket address"

namespace Settings

/-- The fault of the listener's address, if it has one. -/
def bindAddressFault (settings : Settings) : List SettingsFault :=
  let address := settings.listener.bindAddress
  if (Net.SocketAddress.parse? address).isSome then [] else [.bindAddress address]

/-- The fault of the time for requests, if it has one. -/
def timeoutFault (settings : Settings) : List SettingsFault :=
  if settings.timeouts.requestSeconds = 0 then [.zeroRequestTimeout] else []

/-- The fault of the name of the field that holds credentials, if it is read and has one. -/
def identityHeaderFault (settings : Settings) : List SettingsFault :=
  let name := settings.identity.header
  if settings.identity.enabled ∧ (Http.HeaderName.parse? name).isNone then [.identityHeader name]
  else []

/-- The fault of the address for metrics, if it is used and has one. -/
def metricsAddressFault (settings : Settings) : List SettingsFault :=
  let address := settings.observability.metricsAddress
  if settings.observability.metricsEnabled ∧ (Net.SocketAddress.parse? address).isNone then
    [.metricsAddress address]
  else []

/-- All that is wrong with settings. -/
def validate (settings : Settings) : List SettingsFault :=
  settings.bindAddressFault ++ settings.timeoutFault ++ settings.identityHeaderFault ++
    settings.metricsAddressFault

/-- Nothing is reported exactly of settings that fulfil all four conditions. -/
theorem validate_eq_nil_iff (settings : Settings) :
    settings.validate = [] ↔
      (Net.SocketAddress.parse? settings.listener.bindAddress).isSome ∧
      settings.timeouts.requestSeconds ≠ 0 ∧
      (settings.identity.enabled → (Http.HeaderName.parse? settings.identity.header).isSome) ∧
      (settings.observability.metricsEnabled →
        (Net.SocketAddress.parse? settings.observability.metricsAddress).isSome) := by
  simp only [validate, bindAddressFault, timeoutFault, identityHeaderFault, metricsAddressFault,
    List.append_eq_nil_iff, and_assoc]
  refine and_congr (by split <;> simp_all) (and_congr (by split <;> simp_all) (and_congr ?_ ?_))
  · cases settings.identity.enabled <;>
      cases Http.HeaderName.parse? settings.identity.header <;> simp
  · cases settings.observability.metricsEnabled <;>
      cases Net.SocketAddress.parse? settings.observability.metricsAddress <;> simp

end Settings

end PatternRouter
