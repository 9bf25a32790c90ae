import PatternRouter.Certificate.Resolver
import PatternRouter.CommandLine
import PatternRouter.Http.Server
import PatternRouter.Log.Filter
import PatternRouter.Net.Endpoint
import PatternRouter.Pages
import PatternRouter.Settings.Load
import PatternRouter.Text.Quoted

/-!
# The program

A run reads its settings, logs them, compiles the table of pages, offers metrics if it is told to,
and serves at its address until it is told to stop. A table or an address that is of no use ends the
run; metrics that cannot be offered do not.

* `Program.settings` gives the settings of a run.
* `Program.run` gives what a run logs and how it ends.
-/

namespace PatternRouter

/-- The settings with another address for the listener. -/
def Settings.withBindAddress (settings : Settings) (address : String) : Settings :=
  { settings with listener := { settings.listener with bindAddress := address } }

/-- A fault of settings as it is shown. -/
def SettingsFault.display : SettingsFault → String
  | .bindAddress address => "BindAddress(" ++ Text.quoted address ++ ")"
  | .zeroRequestTimeout => "ZeroRequestTimeout"
  | .identityHeader name => "IdentityHeader(" ++ Text.quoted name ++ ")"
  | .metricsAddress address => "MetricsAddress(" ++ Text.quoted address ++ ")"

/-- What is wrong with a file, as it is shown. -/
def FileFault.display : FileFault → String
  | .refused error => error.text
  | .notText => "Error \x7b kind: InvalidData, message: \"stream did not contain valid UTF-8\" \x7d"

namespace Program

/-- Why a run ends before it is told to. -/
inductive Failure where
  /-- There are no settings. -/
  | settings (error : SettingsError)
  /-- The table of pages is none. -/
  | table (error : PatternError)
  /-- The system refuses the address. -/
  | system (error : SystemError)
deriving DecidableEq, Repr

/-- What is said of a failure. Where a text holds no settings the cause is left open. -/
def Failure.message : Failure → String
  | .settings (.unreadable fault) => "Error: Io(" ++ fault.display ++ ")\n"
  | .settings .malformed => "Error: Parse("
  | .settings (.invalid faults) =>
    "Error: Validation([" ++ ", ".intercalate (faults.map SettingsFault.display) ++ "])\n"
  | .table (.misplacedSplat pattern key position) =>
    "Error: MisplacedSplat \x7b pattern: " ++ Text.quoted pattern ++ ", key: " ++ Text.quoted key ++
      ", position: " ++ toString position ++ " \x7d\n"
  | .system error => "Error: " ++ error.text ++ "\n"

/-- What the system answers to a run. -/
structure System where
  /-- The bytes of a file. -/
  file : String → Except FileFault (List UInt8)
  /-- Whether metrics can be offered at an address. -/
  offersMetrics : Net.SocketAddress → Bool
  /-- The address at which the server listens, when it is asked to listen at a place. -/
  listen : Net.Endpoint → Except SystemError String

/-- The settings of a run: those of its file, or the default ones, with the address of the command
line in the place of their own. -/
def settings (file : String → Except FileFault (List UInt8)) (options : CommandLine.Options) :
    Except SettingsError Settings := do
  let settings ←
    match options.config with
    | some name => Settings.load (file name)
    | none => pure {}
  match options.bind with
  | some address => return settings.withBindAddress address
  | none => return settings

/-- The filter of a run. Directives of the surroundings come before those of the settings, if they
are directives. -/
def filter (surrounding : Option String) (settings : Settings) : Log.Filter :=
  match surrounding.bind Log.Filter.parse? with
  | some filter => filter
  | none => Log.Filter.parse settings.observability.logLevel

/-- What is said of the directives of the settings, if they are used and are none. -/
def filterComplaints (surrounding : Option String) (settings : Settings) : List String :=
  match surrounding.bind Log.Filter.parse? with
  | some _ => []
  | none => Log.Filter.complaints settings.observability.logLevel

section

variable (certificates : Certificate.Reader) (settings : Settings)

/-- The table of pages. Clients are identified by their certificates, if at all. -/
def pages : RouterBuilder :=
  Pages.builder
    (if settings.identity.enabled then Certificate.resolve certificates else .anonymous)

/-- The server of a run. -/
def server : Except PatternError Http.Server :=
  (pages certificates settings).build.map (Http.Server.ofSettings settings)

/-- What is logged before the server has its address, but for metrics. -/
def openingEvents : List Log.Event :=
  [.starting,
   .settingsLoaded settings.listener.bindAddress settings.timeouts.requestSeconds
    settings.identity.enabled] ++
  (pages certificates settings).buildEvents

end

/-- What is logged about metrics. -/
def metricsEvents (offersMetrics : Net.SocketAddress → Bool) (settings : Settings) :
    List Log.Event :=
  if settings.observability.metricsEnabled then
    match Net.SocketAddress.parse? settings.observability.metricsAddress with
    | some address =>
      if offersMetrics address then [.metricsListening address.text]
      else [.metricsFailed address.text]
    | none => [.metricsAddressInvalid settings.observability.metricsAddress]
  else []

/-- What is logged when the server has its address. -/
def listeningEvents (address : String) : List Log.Event :=
  [.listening address, .serverStarting address]

/-- What is logged when the server is told to stop. -/
def closingEvents : List Log.Event :=
  [.shutdownSignal, .serverStopped, .shutdownComplete]

/-- What a run logs, and how it ends. -/
structure Run where
  /-- What is logged, in order. -/
  events : List Log.Event
  /-- Why the run ends, if it is not told to. -/
  failure : Option Failure
deriving DecidableEq, Repr

/-- A run with some settings, in which the requests log the events `served`. -/
def run (certificates : Certificate.Reader) (system : System) (settings : Settings)
    (served : List Log.Event) : Run :=
  let opening := openingEvents certificates settings
  match server certificates settings with
  | .error error => ⟨opening, some (.table error)⟩
  | .ok _ =>
    let opening := opening ++ metricsEvents system.offersMetrics settings
    -- The address was checked when the settings were loaded, but the command line may replace it.
    match Net.Endpoint.parse settings.listener.bindAddress >>= system.listen with
    | .error error => ⟨opening, some (.system error)⟩
    | .ok address => ⟨opening ++ listeningEvents address ++ served ++ closingEvents, none⟩

end Program

end PatternRouter
