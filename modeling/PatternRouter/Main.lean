import PatternRouter.Http.RequestId
import PatternRouter.Http.Wire
import PatternRouter.Log.Line
import PatternRouter.Program
import Std.Async
import Std.Net

/-!
# The command line program

Reads the arguments, the file and the environment, opens sockets, carries bytes and writes lines.
What is read, decided and written is defined elsewhere.
-/

namespace PatternRouter.Main

open Std.Async (Async)

/-- What the parts of a run share. -/
structure Context where
  settings : Settings
  /-- The events that are written. -/
  filter : Log.Filter

/-- The reader of certificates, with the words in which this program tells of faults. -/
def certificates : Certificate.Reader :=
  .x509 ⟨fun _ => "no X.509 certificate", fun _ => "no PEM text"⟩

/-- The present time, as it stands on a line. -/
def timestamp : IO String := do
  let now := Std.Time.DateTime.ofTimestampWithZone (← Std.Time.Timestamp.now) .UTC
  return now.format "uuuu-MM-dd'T'HH:mm:ss.SSSSSS'Z'"

/-- Write an event, if it passes. -/
def Context.log (context : Context) (event : Log.Event) : IO Unit := do
  if context.filter.passes event then
    let time ← timestamp
    let line :=
      match context.settings.observability.logFormat with
      | .pretty => event.plainLine time
      | .json => event.jsonLine time
    IO.println line
    (← IO.getStdout).flush

/-- Write events. -/
def Context.logAll (context : Context) (events : List Log.Event) : IO Unit :=
  events.forM context.log

/-- The error that the system reports. It gives its numbers with a sign. -/
def systemError (error : IO.Error) : SystemError :=
  let absolute := fun (code : UInt32) => if code < 0x80000000 then code.toNat else (-code).toNat
  match error with
  | .noFileOrDirectory .. => .notFound
  | .inappropriateType _ code description => .ofNumber (absolute code) description
  | .resourceBusy code description => .ofNumber (absolute code) description
  | .unsupportedOperation code description => .ofNumber (absolute code) description
  | .permissionDenied _ code description => .ofNumber (absolute code) description
  | .otherError code description => .ofNumber (absolute code) description
  | error => .ofNumber 0 (toString error)

/-- Do something that the system may refuse. -/
def attempt {α : Type} (action : IO α) : IO (Except SystemError α) := do
  try
    return .ok (← action)
  catch error => return .error (systemError error)

/-- The bytes of a file. -/
def readFile (name : String) : IO (Except FileFault (List UInt8)) := do
  match ← attempt (IO.FS.readBinFile name) with
  | .ok bytes => return .ok bytes.toList
  | .error error => return .error (.refused error)

/-- An address in the form of the system. -/
def toSystem : Net.SocketAddress → Std.Net.SocketAddress
  | .v4 ⟨a, b, c, d⟩ port =>
    .v4 ⟨.ofParts a.toUInt8 b.toUInt8 c.toUInt8 d.toUInt8, port.toUInt16⟩
  | .v6 address _ port =>
    let group := fun i => (address.groups.getD i 0).toUInt16
    .v6 ⟨.ofParts (group 0) (group 1) (group 2) (group 3) (group 4) (group 5) (group 6) (group 7),
      port.toUInt16⟩

/-- An address of the system. -/
def ofSystem : Std.Net.SocketAddress → Net.SocketAddress
  | .v4 ⟨address, port⟩ =>
    let byte := fun i => (address.octets.toList.getD i 0).toNat
    .v4 ⟨byte 0, byte 1, byte 2, byte 3⟩ port.toNat
  | .v6 ⟨address, port⟩ => .v6 ⟨address.segments.toList.map UInt16.toNat⟩ 0 port.toNat

/-- A socket that listens at an address. -/
def openSocket (address : Std.Net.SocketAddress) : IO Std.Async.TCP.Socket.Server := do
  let socket ← Std.Async.TCP.Socket.Server.mk
  socket.bind address
  socket.listen 1024
  return socket

/-- A socket that listens at a place. -/
def openEndpoint (endpoint : Net.Endpoint) :
    IO (Except SystemError Std.Async.TCP.Socket.Server) := do
  match endpoint with
  | .socket address => attempt (openSocket (toSystem address))
  | .host name port =>
    let found : Except SystemError (Array Std.Net.IPAddr) ←
      attempt (Std.Async.DNS.getAddrInfo name "").block
    match found with
    | .error _ => return .error (.unknownHost "Name or service not known")
    | .ok addresses =>
      match addresses.toList with
      | .v4 address :: _ => attempt (openSocket (.v4 ⟨address, port.toUInt16⟩))
      | .v6 address :: _ => attempt (openSocket (.v6 ⟨address, port.toUInt16⟩))
      | [] => return .error (.unknownHost "Name or service not known")

/-- Serve the requests on a connection, of which `bytes` are not answered yet. -/
partial def serve (context : Context) (server : Http.Server) (client : Std.Async.TCP.Socket.Client)
    (bytes : List UInt8) : Async Unit := do
  match Http.Wire.read bytes with
  | .incomplete =>
    match ← client.recv? 65536 with
    | some more => serve context server client (bytes ++ more.toList)
    | none => return
  | .malformed =>
    client.send ⟨(Http.Wire.render Http.Wire.badRequest true).toArray⟩
    client.shutdown
  | .complete received =>
    let random ← IO.getRandomBytes 16
    let answer := server.answer (Http.RequestId.ofRandom random.toList) received.request
    context.logAll (answer.steps.filterMap Step.event?)
    client.send ⟨(Http.Wire.render answer.response received.closes).toArray⟩
    if received.closes then client.shutdown
    else serve context server client received.rest

/-- Serve all connections. -/
partial def acceptAll (context : Context) (server : Http.Server)
    (socket : Std.Async.TCP.Socket.Server) : Async Unit := do
  let client ← socket.accept
  Std.Async.background (serve context server client [])
  acceptAll context server socket

/-- Tell why a run ends before it is told to. -/
def fail (failure : Program.Failure) : IO UInt32 := do
  IO.eprint failure.message
  return 1

/-- Serve with some settings until the program is told to stop. -/
def run (context : Context) : IO UInt32 := do
  let settings := context.settings
  context.logAll (Program.openingEvents certificates settings)
  match Program.server certificates settings with
  | .error error => fail (.table error)
  | .ok server =>
    let address := Net.SocketAddress.parse? settings.observability.metricsAddress
    let metrics ←
      match settings.observability.metricsEnabled, address with
      | true, some address => attempt (openSocket (toSystem address))
      | _, _ => pure (.error .addressNotAvailable)
    context.logAll (Program.metricsEvents (fun _ => metrics.toBool) settings)
    let socket ←
      match Net.Endpoint.parse settings.listener.bindAddress with
      | .ok endpoint => openEndpoint endpoint
      | .error error => pure (.error error)
    match socket with
    | .error error => fail (.system error)
    | .ok socket =>
      let interrupt ← Std.Async.Signal.Waiter.mk .sigint false
      let interrupted ← interrupt.wait
      context.logAll (Program.listeningEvents (ofSystem (← socket.getSockName)).text)
      let _ ← (acceptAll context server socket).toIO
      let _ ← interrupted.block
      context.logAll Program.closingEvents
      return 0

/-- Do what the arguments ask for. -/
def perform (arguments : List String) : IO UInt32 := do
  match CommandLine.parse arguments with
  | .error error =>
    IO.eprint error.message
    return 2
  | .ok .help =>
    CommandLine.helpLines.forM IO.println
    return 0
  | .ok (.serve options) =>
    let content ←
      match options.config with
      | some name => readFile name
      | none => pure (.ok [])
    match Program.settings (fun _ => content) options with
    | .error error => fail (.settings error)
    | .ok settings =>
      let surrounding ← IO.getEnv "RUST_LOG"
      (Program.filterComplaints surrounding settings).forM IO.eprintln
      run ⟨settings, Program.filter surrounding settings⟩

end PatternRouter.Main

/-- The program. -/
def main (arguments : List String) : IO UInt32 :=
  PatternRouter.Main.perform arguments
